import SiteIndex.Proofs.Engine.Rules
import SiteIndex.Proofs.Page.BuiltIns
import SiteIndex.Proofs.Query.Types
import SiteIndex.Proofs.Site.InStep

/-!
# Built-in attributes keep their types

An attribute under which pages are posted with values of one type has no others in the index,
whatever the engine was called for. For the attributes that every page has this is so whatever
authors write, and so no query over those that are texts fails for types (`builtIns_run`). The
second address is one of them as long as no author writes anything but a text for it.
-/

namespace SiteIndex

open Page (Stub builtInTypes)
open Posting
open SiteIndex.Action (Yields)

namespace Site

variable {site : Site} {previous : NameMap Stub}

/-- A page is made from the files of its home. -/
theorem isMade_of_make? {stub : Stub} {page : Page} (h : site.make? stub = .ok page) :
    page.IsMade := by
  unfold make? at h
  split at h
  case h_1 files hfiles => exact ⟨stub, files, site.formats, h⟩
  case h_2 => cases h

/-- What is taken up for a file is a page that is made. -/
theorem isMade_of_take {mount : Mount} {scope : Scope} {path : String} {entry : Stub × Page}
    (h : site.take previous mount scope path = .ok entry) : entry.2.IsMade := by
  unfold take at h
  cases hstub : Stub.ofFile scope.files path mount.point scope.language site.defaultLanguage with
  | error failure =>
      rw [hstub] at h
      cases h
  | ok fresh =>
      rw [hstub] at h
      cases hmake : site.make? ((previous.get? fresh.shasum).getD
          { fresh with home := scope.home }) with
      | error failure => simp [bind, Except.bind, hmake] at h
      | ok page =>
          simp only [bind, Except.bind, hmake, pure, Except.pure, Except.ok.injEq] at h
          exact h ▸ isMade_of_make? hmake

/-- The pages of a rebuild are made from files. -/
theorem isMade_of_mem_made {entry : Stub × Page} (h : entry ∈ site.made previous) :
    entry.2.IsMade := by
  rw [made_eq] at h
  simp only [List.mem_flatMap, List.mem_filterMap] at h
  obtain ⟨⟨mount, number⟩, -, scope, -, path, -, htake⟩ := h
  cases hresult : site.take previous mount scope path with
  | error failure =>
      rw [hresult] at htake
      cases htake
  | ok result =>
      rw [hresult] at htake
      obtain rfl : result = entry := Option.some.inj htake
      exact isMade_of_take hresult

end Site

namespace Engine

/-- The pages that a call is given. -/
def Call.given : Call → List Page
  | .add _ page | .addAttributes _ page => [page]
  | _ => []

/-- If the pages that a call is given are made from files, so are all that it may post. -/
theorem Call.isMade_posting {call : Call} (h : ∀ page ∈ call.given, page.IsMade) :
    ∀ page ∈ call.posting, page.IsMade := by
  cases call with
  | add | addAttributes => exact h
  | rebuild site previous =>
      intro page hpage
      obtain ⟨entry, hentry, rfl⟩ := List.mem_map.1 hpage
      exact Site.isMade_of_mem_made hentry
  | _ => exact nofun

/-- An attribute under which all pages are posted with values of one type has only such values. -/
theorem typed_run {e : Engine} (hempty : e.store.content = ∅) {calls : List Call}
    {name type : String} (hpages : ∀ page ∈ calls.flatMap Call.posting, ∀ p ∈ pairsOf page,
      p.1 = name → p.2.typeName = type) :
    Respects (valued name type) (calls.foldl perform e) := by
  have hstart : Respects (valued name type) e := by
    intro ns c n slot bytes v _ _ _ hentry
    rw [hempty] at hentry
    cases hentry
  refine respects_calls (lenient_valued name type) (fun _ _ _ _ _ _ _ _ _ h => nomatch h) hstart ?_
  intro call hcall page hpage p hp n slot hname
  refine valued_of_typeName fun heq => ?_
  exact hpages page (List.mem_flatMap.2 ⟨call, hcall, hpage⟩) p hp (hname ▸ heq)

/-- An attribute of one type is listed with values of this type. -/
theorem yields_listing {P : Store → Prop} {name type : String}
    (h : ∀ s, P s → Posting.Respects (valued name type) s) :
    Yields P (Index.Attributes.values name)
      (fun listing => ∀ entry ∈ listing, entry.1.typeName = type) NoMismatch := by
  refine Yields.bind (yields_values h) fun found hfound => Yields.mapM fun e he => ?_
  exact Yields.bind (yields_shasums .context _) fun _ _ => Yields.pure (hfound e he)

/-- Whatever authors write, the attributes that every page has are posted and listed with values of
their types, and a query over those that are texts does not fail for types. Only the second address
is left as it was written if that is no text: it stands in the context of a page just as it stands
in the page unless its frontmatter has something else for it, and it is a text for all pages unless
one of them does. -/
theorem builtIns_run {e : Engine} (hempty : e.store.content = ∅) {calls : List Call}
    (hmade : ∀ call ∈ calls, ∀ page ∈ call.given, page.IsMade) :
    let pages := calls.flatMap Call.posting
    let after := calls.foldl perform e
    let IsPlain : String → Prop := fun name =>
      name = "permalink" → ∀ page ∈ pages, page.PlainPermalink
    (∀ page ∈ pages,
        page.context.get? "permalink" = page.permalink.map .text ↔ page.PlainPermalink) ∧
      (∀ name type, (name, type) ∈ builtInTypes → IsPlain name →
        (∀ page ∈ pages, ∀ p ∈ pairsOf page, p.1 = name → p.2.typeName = type) ∧
          ∀ listing, ((values name).run after).1 = .ok listing →
            ∀ entry ∈ listing, entry.1.typeName = type) ∧
      ∀ s : Query.Statement,
        (∀ key ∈ s.expression.keys, (key, "string") ∈ builtInTypes ∧ IsPlain key) →
          ∀ failure, ((Query.run .context s).run after.store).1 = .error failure →
            failure.kind ≠ .typeMismatch := by
  intro pages after IsPlain
  have hpages : ∀ page ∈ pages, page.IsMade := by
    intro page hpage
    obtain ⟨call, hcall, hmem⟩ := List.mem_flatMap.1 hpage
    exact Call.isMade_posting (hmade call hcall) page hmem
  have hposted : ∀ name type, (name, type) ∈ builtInTypes → IsPlain name →
      ∀ page ∈ pages, ∀ p ∈ pairsOf page, p.1 = name → p.2.typeName = type := by
    rintro name type htype hplain page hpage ⟨other, value⟩ hp rfl
    exact (hpages page hpage).typeName_of_builtIn htype (fun h => hplain h page hpage) hp
  have htyped : ∀ name type, (name, type) ∈ builtInTypes → IsPlain name →
      Posting.Respects (valued name type) after.store :=
    fun name type htype hplain => typed_run hempty (hposted name type htype hplain)
  refine ⟨fun page hpage => (hpages page hpage).get?_permalink_iff,
    fun name type htype hplain => ⟨hposted name type htype hplain, ?_⟩, fun s hkeys => ?_⟩
  · have hlisting : Yields (· = after.store) _ _ NoMismatch :=
      yields_listing fun _ hs => hs ▸ htyped name type htype hplain
    exact (hlisting after.store rfl).2.1
  · have hrun : Yields (· = after.store) (Query.run .context s) (fun _ => True) NoMismatch :=
      Query.yields_run fun key hkey _ hs => hs ▸ htyped key "string" (hkeys key hkey).1
        (hkeys key hkey).2
    exact (hrun after.store rfl).2.2

/-- The author wrote a number for the title and a text for the second address. -/
def titledByNumber : Files.File :=
  ⟨Text.Utf8.encode "\x7b\"title\": 5, \"permalink\": \"/b\"\x7d", Site.midnight 0,
    Site.midnight 0⟩

/-- A site of this file. -/
def titledSite : Site :=
  Site.plainLayout.site fun _ => Files.MemoryFiles.write { name := "site" } "a.txt" titledByNumber

/-- What is listed as titles are texts, and second addresses can be matched. -/
theorem builtIns_run_titled :
    let after := [Call.rebuild titledSite {}].foldl perform Site.blank.engine
    (∀ listing, ((values "title").run after).1 = .ok listing →
        ∀ entry ∈ listing, entry.1.typeName = "string") ∧
      ∀ failure, ((Query.run .context
          { expression := .operation "permalink" .matches (.pattern ⟨"^/", ""⟩) }).run
            after.store).1 = .error failure → failure.kind ≠ .typeMismatch := by
  have hpermalinks : ∀ entry ∈ titledSite.made ∅,
      (entry.2.frontmatter.get? "permalink").all (fun v => v.typeName = "string") = true := by
    decide +kernel
  have hplain : ∀ page ∈ [Call.rebuild titledSite {}].flatMap Call.posting,
      page.PlainPermalink := by
    rw [List.flatMap_singleton]
    intro page hpage v hv
    obtain ⟨entry, hentry, rfl⟩ := List.mem_map.1 hpage
    have hall := hpermalinks entry hentry
    rw [hv] at hall
    simpa using hall
  have hgiven : ∀ call ∈ [Call.rebuild titledSite {}], ∀ page ∈ call.given, page.IsMade := by
    simp [Call.given]
  have hempty : Site.blank.engine.store.content = ∅ := rfl
  obtain ⟨-, htyped, hqueries⟩ := builtIns_run hempty hgiven
  refine ⟨(htyped "title" "string" (by decide) (fun h => absurd h (by decide))).2, hqueries _ ?_⟩
  intro key hkey
  obtain rfl := List.mem_singleton.1 hkey
  exact ⟨by decide, fun _ => hplain⟩

end Engine

end SiteIndex
