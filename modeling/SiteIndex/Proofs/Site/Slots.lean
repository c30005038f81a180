import Mathlib.Data.List.Forall2
import SiteIndex.Proofs.Site.InStep

/-!
# The slots of a catalog

A catalog finds a page by its path, its addresses, its former addresses and its shasum: these are
slots, and of the pages that want a slot the one that is registered last has it
(`Catalog.at?_register`). What a catalog answers depends on its slots only, but for the pages that
translate others, which are all kept.

Pages of one shasum may be registered more than once. If they want the same slots, the last of them
has all that the others have had (`current_ofPages`), so that it makes no difference if they are all
replaced by this one (`agree_of_again`).
-/

namespace SiteIndex.Site

open Page (Stub normalizeTag normalizeUrl)

/-! ## Slots -/

/-- What is told of a stub: all but the home in which its file is found. -/
def shown (stub : Stub) : Stub := { stub with home := {} }

/-- Where a catalog keeps one stub. -/
inductive Slot where
  | path (mount language source : String)
  | url (mount language address : String)
  /-- A former address. -/
  | redirect (address : String)
  | shasum (shasum : String)

/-- A page takes the slot when it is registered. -/
def Fills (entry : Stub × Page) : Slot → Prop
  | .path mount language source =>
    (mount = entry.1.mount ∧ language = entry.1.language) ∧ source = entry.1.source
  | .url mount language address =>
    (mount = entry.1.mount ∧ language = entry.1.language) ∧
      (address = entry.2.url ∨ entry.2.permalink = some address)
  | .redirect address => address ∈ entry.2.redirects
  | .shasum shasum => shasum = entry.1.shasum

instance (entry : Stub × Page) : (slot : Slot) → Decidable (Fills entry slot)
  | .path _ _ _ => inferInstanceAs (Decidable ((_ ∧ _) ∧ _))
  | .url _ _ _ => inferInstanceAs (Decidable ((_ ∧ _) ∧ (_ ∨ _)))
  | .redirect _ => inferInstanceAs (Decidable (_ ∈ _))
  | .shasum _ => inferInstanceAs (Decidable (_ = _))

namespace Catalog

/-- The stub in a slot. -/
def at? (c : Catalog) : Slot → Option Stub
  | .path mount language source => (c.tree? mount language).bind (·.paths.get? source)
  | .url mount language address => (c.tree? mount language).bind (·.urls.get? address)
  | .redirect address => c.redirects.get? address
  | .shasum shasum => c.stubs.get? shasum

/-- There is nothing in an empty catalog. -/
theorem at?_empty (slot : Slot) : ({} : Catalog).at? slot = none := by
  cases slot <;> rfl

section Register

variable (c : Catalog) (stub : Stub) (page : Page)

/-- A page is put into the tree of its mount and language. -/
theorem tree?_register (mount language : String) :
    (c.register stub page).tree? mount language
      = if mount = stub.mount ∧ language = stub.language then
          some (((c.tree? mount language).getD {}).register stub page)
        else c.tree? mount language := by
  show ((c.trees.insert stub.mount _).get? mount).bind (·.get? language) = _
  rw [NameMap.get?_insert]
  by_cases hmount : mount = stub.mount
  · rw [if_pos hmount, Option.bind_some, NameMap.get?_insert]
    by_cases hlanguage : language = stub.language
    · rw [if_pos hlanguage, if_pos ⟨hmount, hlanguage⟩, hmount, hlanguage]
      show some (Tree.register (((c.trees.get? stub.mount).getD ∅).get? stub.language |>.getD {})
        stub page) = some (Tree.register (((c.trees.get? stub.mount).bind
          (·.get? stub.language)).getD {}) stub page)
      cases c.trees.get? stub.mount <;> rfl
    · rw [if_neg hlanguage, if_neg fun h => hlanguage h.2, hmount]
      show ((c.trees.get? stub.mount).getD ∅).get? language
        = (c.trees.get? stub.mount).bind (·.get? language)
      cases c.trees.get? stub.mount <;> rfl
  · rw [if_neg hmount, if_neg fun h => hmount h.1]
    rfl

/-- A page is at its address and at its second one. -/
theorem urls_register (t : Tree) (address : String) :
    (t.register stub page).urls.get? address
      = if address = page.url ∨ page.permalink = some address then some stub
        else t.urls.get? address := by
  unfold Tree.register
  cases page.permalink with
  | none =>
      simp only [reduceCtorEq, or_false]
      exact NameMap.get?_insert
  | some permalink =>
      dsimp only
      rw [NameMap.get?_insert, NameMap.get?_insert]
      by_cases h : address = permalink
      · rw [if_pos h, if_pos (.inr (congrArg some h.symm))]
      · have hne : some permalink ≠ some address := fun heq => h (Option.some.inj heq).symm
        simp only [if_neg h, or_iff_left hne]

/-- A stub is put under all addresses of a list. -/
theorem get?_foldl_insert (addresses : List String) (m : NameMap Stub) (address : String) :
    (addresses.foldl (fun m url => m.insert url stub) m).get? address
      = if address ∈ addresses then some stub else m.get? address := by
  induction addresses generalizing m with
  | nil => rfl
  | cons first rest ih =>
      rw [List.foldl_cons, ih, NameMap.get?_insert]
      by_cases hrest : address ∈ rest <;> by_cases hfirst : address = first <;>
        simp [hrest, hfirst]

/-- A page that is registered takes its slots and leaves the others. -/
theorem at?_register (slot : Slot) : (c.register stub page).at? slot
    = if Fills (stub, page) slot then some stub else c.at? slot := by
  cases slot with
  | path mount language source =>
      rw [at?, tree?_register]
      by_cases h : mount = stub.mount ∧ language = stub.language
      · rw [if_pos h, Option.bind_some]
        refine NameMap.get?_insert.trans ?_
        have hfills : Fills (stub, page) (.path mount language source) ↔ source = stub.source :=
          and_iff_right h
        simp only [hfills]
        rw [at?]
        cases c.tree? mount language <;> rfl
      · rw [if_neg h, if_neg fun hfills => h hfills.1]
        rfl
  | url mount language address =>
      rw [at?, tree?_register]
      by_cases h : mount = stub.mount ∧ language = stub.language
      · rw [if_pos h, Option.bind_some, urls_register]
        have hfills : Fills (stub, page) (.url mount language address) ↔
            address = page.url ∨ page.permalink = some address := and_iff_right h
        simp only [hfills]
        rw [at?]
        cases c.tree? mount language <;> rfl
      · rw [if_neg h, if_neg fun hfills => h hfills.1]
        rfl
  | redirect address => exact get?_foldl_insert stub page.redirects c.redirects address
  | shasum shasum => exact NameMap.get?_insert

/-- A page that translates another is put behind those before it. -/
theorem translating_register (url : String) :
    ((c.register stub page).translating.get? url).getD []
      = (c.translating.get? url).getD [] ++ if page.translates = some url then [stub] else [] := by
  unfold register
  cases page.translates with
  | none => simp
  | some address =>
      dsimp only
      rw [NameMap.get?_insert]
      by_cases h : url = address
      · rw [if_pos h, if_pos (congrArg some h.symm), h]
        rfl
      · have hne : ¬ some address = some url := fun heq => h (Option.some.inj heq).symm
        rw [if_neg h, if_neg hne, List.append_nil]

end Register

/-! ## The last page that wants a slot -/

/-- The stub of the last page that has a property. -/
def lastOf (pages : List (Stub × Page)) (p : Stub × Page → Prop) [DecidablePred p] : Option Stub :=
  (pages.filter p).getLast?.map (·.1)

section LastOf

variable {p : Stub × Page → Prop} [DecidablePred p] {pages : List (Stub × Page)} {stub : Stub}

/-- A further page is the last one if it has the property. -/
theorem lastOf_concat (front : List (Stub × Page)) (entry : Stub × Page) :
    lastOf (front ++ [entry]) p = if p entry then some entry.1 else lastOf front p := by
  rw [lastOf, List.filter_append]
  by_cases h : p entry <;> simp [lastOf, h]

/-- The last page of a property is a page that has it. -/
theorem exists_page_of_lastOf (h : lastOf pages p = some stub) :
    ∃ page, (stub, page) ∈ pages ∧ p (stub, page) := by
  obtain ⟨⟨_, page⟩, hlast, rfl⟩ := Option.map_eq_some_iff.1 h
  obtain ⟨hmem, hp⟩ := List.mem_filter.1 (List.mem_of_getLast? hlast)
  exact ⟨page, hmem, of_decide_eq_true hp⟩

/-- If a page has the property, there is a last one. -/
theorem exists_lastOf {entry : Stub × Page} (hmem : entry ∈ pages) (hp : p entry) :
    ∃ stub, lastOf pages p = some stub := by
  have hne : pages.filter p ≠ [] :=
    List.ne_nil_of_mem (List.mem_filter.2 ⟨hmem, decide_eq_true hp⟩)
  exact ⟨_, by rw [lastOf, List.getLast?_eq_some_getLast hne, Option.map_some]⟩

/-- The last page of a property is that of another one that the same pages have. -/
theorem lastOf_congr {q : Stub × Page → Prop} [DecidablePred q]
    (h : ∀ entry ∈ pages, p entry ↔ q entry) : lastOf pages p = lastOf pages q := by
  rw [lastOf, lastOf, List.filter_congr fun entry hentry => decide_eq_decide.2 (h entry hentry)]

/-- The last page of a property is also the last of a stronger one if its stub makes sure of it. -/
theorem lastOf_of_imp {q : Stub × Page → Prop} [DecidablePred q]
    (himp : ∀ entry ∈ pages, q entry → p entry) (hq : ∀ page, q (stub, page))
    (h : lastOf pages p = some stub) : lastOf pages q = some stub := by
  induction pages using List.reverseRecOn with
  | nil => cases h
  | append_singleton front entry ih =>
      rw [lastOf_concat] at h ⊢
      split at h
      case isTrue =>
        obtain rfl := Option.some.inj h
        exact if_pos (hq entry.2)
      case isFalse hnot =>
        rw [if_neg fun hentry => hnot (himp entry (by simp) hentry)]
        exact ih (fun e he => himp e (List.mem_append_left _ he)) h

end LastOf

/-- In each slot is the last page that takes it. -/
theorem at?_ofPages (pages : List (Stub × Page)) (slot : Slot) :
    (ofPages pages).at? slot = lastOf pages (Fills · slot) := by
  induction pages using List.reverseRecOn with
  | nil => exact at?_empty slot
  | append_singleton front entry ih =>
      rw [ofPages_concat, at?_register, lastOf_concat, ih]

/-- A stub in a slot is that of a page that takes the slot. -/
theorem exists_page_of_at? {pages : List (Stub × Page)} {slot : Slot} {stub : Stub}
    (h : (ofPages pages).at? slot = some stub) :
    ∃ page, (stub, page) ∈ pages ∧ Fills (stub, page) slot := by
  rw [at?_ofPages] at h
  exact exists_page_of_lastOf h

/-- A page is translated by all pages that say so, in the order of their registration. -/
theorem translating_ofPages (pages : List (Stub × Page)) (url : String) :
    ((ofPages pages).translating.get? url).getD []
      = (pages.filter fun entry => entry.2.translates = some url).map (·.1) := by
  induction pages using List.reverseRecOn with
  | nil => rfl
  | append_singleton front entry ih =>
      rw [ofPages_concat, translating_register, ih, List.filter_append, List.map_append]
      by_cases h : entry.2.translates = some url <;> simp [h]

/-! ## What a catalog answers -/

/-- Catalogs that answer alike. The pages that translate another may be found in other homes. -/
structure Agree (c c' : Catalog) : Prop where
  stubs : c.stubs = c'.stubs
  lookup : ∀ points fallback language url,
    c.lookup points fallback language url = c'.lookup points fallback language url
  lookupPrefix : ∀ points language url,
    c.lookupPrefix points language url = c'.lookupPrefix points language url
  lookupRedirect : ∀ url, c.lookupRedirect url = c'.lookupRedirect url
  lookupTranslating : ∀ url,
    (c.lookupTranslating url).map shown = (c'.lookupTranslating url).map shown

section Answers

variable {c c' : Catalog}

/-- The tree of a mount and a language, which may have no pages. -/
def treeAt (c : Catalog) (point language : String) : Tree := (c.tree? point language).getD {}

/-- A look-up reads slots of addresses and paths. -/
theorem lookupIn_eq (points : List String) (language url : String) :
    c.lookupIn points language url = points.findSome? fun point =>
      (c.at? (.url point language (normalizeUrl url))).or
        (c.at? (.path point language (Files.cleanPath url))) := by
  unfold lookupIn
  congr 1
  funext point
  rw [at?, at?]
  cases c.tree? point language <;> rfl

/-- Trees without pages add nothing to what is found. -/
theorem foldl_entriesUnder (top language : String) (points : List String)
    (found : List (String × Stub)) :
    (points.filterMap fun point => c.tree? point language).foldl (entriesUnder top) found
      = points.foldl (fun found point => entriesUnder top found (c.treeAt point language))
          found := by
  induction points generalizing found with
  | nil => rfl
  | cons point rest ih =>
      rw [List.filterMap_cons, List.foldl_cons, treeAt]
      cases c.tree? point language with
      | none => exact ih found
      | some tree => exact ih _

/-- The addresses of a tree are slots of the catalog. -/
theorem get?_treeAt (c : Catalog) (point language address : String) :
    (c.treeAt point language).urls.get? address = c.at? (.url point language address) := by
  rw [treeAt, at?]
  cases c.tree? point language <;> rfl

/-- Trees with the same slots have the same pages below an address. -/
theorem entriesUnder_congr (h : ∀ slot, c.at? slot = c'.at? slot) (top point language : String)
    (found : List (String × Stub)) : entriesUnder top found (c.treeAt point language)
      = entriesUnder top found (c'.treeAt point language) := by
  have hurls : (c.treeAt point language).urls = (c'.treeAt point language).urls :=
    NameMap.ext_get? fun address => by rw [get?_treeAt, get?_treeAt, h]
  rw [entriesUnder, entriesUnder, hurls]

/-- Catalogs with the same slots answer alike if pages are translated by the same ones. -/
theorem agree_of_at? (h : ∀ slot, c.at? slot = c'.at? slot)
    (htranslating : ∀ url, ((c.translating.get? url).getD []).map shown
      = ((c'.translating.get? url).getD []).map shown) : Agree c c' where
  stubs := NameMap.ext_get? fun shasum => h (.shasum shasum)
  lookup points fallback language url := by
    simp only [lookup, lookupIn_eq, h]
  lookupPrefix points language url := by
    rw [lookupPrefix, lookupPrefix, foldl_entriesUnder, foldl_entriesUnder]
    simp only [entriesUnder_congr h]
  lookupRedirect url := h (.redirect (normalizeUrl url))
  lookupTranslating url := htranslating (normalizeUrl url)

end Answers

end Catalog

/-! ## Pages of one shasum -/

/-- The pages take the same slots and translate the same page, and their stubs differ in nothing but
their homes. -/
structure Alike (entry entry' : Stub × Page) : Prop where
  shown : shown entry.1 = shown entry'.1
  url : entry.2.url = entry'.2.url
  permalink : entry.2.permalink = entry'.2.permalink
  redirects : entry.2.redirects = entry'.2.redirects
  translates : entry.2.translates = entry'.2.translates

/-- Pages that are alike take the same slots. -/
theorem Alike.fills_iff {entry entry' : Stub × Page} (h : Alike entry entry') (slot : Slot) :
    Fills entry slot ↔ Fills entry' slot := by
  have hmount : entry.1.mount = entry'.1.mount := (congrArg Stub.mount h.shown :)
  have hlanguage : entry.1.language = entry'.1.language := (congrArg Stub.language h.shown :)
  have hsource : entry.1.source = entry'.1.source := (congrArg Stub.source h.shown :)
  have hshasum : entry.1.shasum = entry'.1.shasum := (congrArg Stub.shasum h.shown :)
  cases slot <;> simp only [Fills, hmount, hlanguage, hsource, hshasum, h.url, h.permalink,
    h.redirects]

namespace Catalog

section Again

variable {pages : List (Stub × Page)} {slot : Slot} {stub : Stub}

/-- If pages of one shasum are alike, whatever stub has a slot is the one of its shasum. -/
theorem current_ofPages (halike : ∀ entry ∈ pages, ∀ entry' ∈ pages,
      entry.1.shasum = entry'.1.shasum → Alike entry entry')
    (h : (ofPages pages).at? slot = some stub) :
    (∃ page, (stub, page) ∈ pages ∧ Fills (stub, page) slot) ∧
      (ofPages pages).stubs.get? stub.shasum = some stub := by
  obtain ⟨page, hpage, hfills⟩ := exists_page_of_at? h
  refine ⟨⟨page, hpage, hfills⟩, ?_⟩
  -- Each page of this shasum wants the slot as well.
  have himp : ∀ entry ∈ pages, stub.shasum = entry.1.shasum → Fills entry slot :=
    fun entry hentry heq => ((halike _ hpage _ hentry heq).fills_iff slot).1 hfills
  rw [at?_ofPages] at h
  exact (at?_ofPages pages (.shasum stub.shasum)).trans (lastOf_of_imp himp (fun _ => rfl) h)

/-- The second page is of the stub that the catalog has for the shasum of the first. -/
structure Resumes (pages : List (Stub × Page)) (entry entry' : Stub × Page) : Prop where
  mem : entry ∈ pages
  mem' : entry' ∈ pages
  known : (ofPages pages).stubs.get? entry.1.shasum = some entry'.1

/-- The pages that replace others are among the pages. -/
theorem mem_of_again {front again : List (Stub × Page)}
    (h : List.Forall₂ (Resumes pages) front again) : ∀ entry ∈ again, entry ∈ pages := by
  induction h with
  | nil => exact nofun
  | cons hentry _ ih => exact List.forall_mem_cons.2 ⟨hentry.mem', ih⟩

/-- The stub that the catalog has for the shasum of a stub. -/
def resume (pages : List (Stub × Page)) (stub : Stub) : Stub :=
  ((ofPages pages).stubs.get? stub.shasum).getD stub

/-- The second catalog has in each slot the stub that is known for the shasum of the one in the
first, and translates pages by stubs that show the same. -/
structure Resumed (pages : List (Stub × Page)) (c c' : Catalog) : Prop where
  slots : ∀ slot, c'.at? slot = (c.at? slot).map (resume pages)
  translating : ∀ url, ((c'.translating.get? url).getD []).map shown
    = ((c.translating.get? url).getD []).map shown

variable {c c' : Catalog} {entry entry' : Stub × Page}

/-- Registering a page in the one and the page that replaces it in the other. -/
theorem Resumed.register (h : Resumed pages c c') (hentry : Resumes pages entry entry')
    (hsame : Alike entry entry') :
    Resumed pages (c.register entry.1 entry.2) (c'.register entry'.1 entry'.2) where
  slots slot := by
    rw [at?_register, at?_register, h.slots]
    by_cases hfills : Fills entry slot
    · rw [if_pos hfills, if_pos ((hsame.fills_iff slot).1 hfills), Option.map_some, resume,
        hentry.known]
      rfl
    · rw [if_neg hfills, if_neg fun h => hfills ((hsame.fills_iff slot).2 h)]
  translating url := by
    rw [translating_register, translating_register, List.map_append, List.map_append,
      h.translating, ← hsame.translates]
    split <;> simp [hsame.shown]

/-- If pages of one shasum are alike, the catalog answers the same when each of them is replaced by
the one that was registered last. -/
theorem agree_of_again {again : List (Stub × Page)}
    (halike : ∀ entry ∈ pages, ∀ entry' ∈ pages,
      entry.1.shasum = entry'.1.shasum → Alike entry entry')
    (hagain : List.Forall₂ (Resumes pages) pages again) :
    Agree (ofPages again) (ofPages pages) := by
  have hmore : ∀ {front front' : List (Stub × Page)}, List.Forall₂ (Resumes pages) front front' →
      ∀ {c c' : Catalog}, Resumed pages c c' →
        Resumed pages (front.foldl (fun c entry => c.register entry.1 entry.2) c)
          (front'.foldl (fun c entry => c.register entry.1 entry.2) c') := by
    intro front front' h
    induction h with
    | nil => exact id
    | cons hentry _ ih =>
        exact fun hc => ih (hc.register hentry
          (halike _ hentry.mem _ hentry.mem' (shasum_ofPages hentry.known).symm))
  have hempty : Resumed pages {} {} := ⟨fun slot => by rw [at?_empty]; rfl, fun _ => rfl⟩
  obtain ⟨hslots, htranslating⟩ : Resumed pages (ofPages pages) (ofPages again) :=
    hmore hagain hempty
  refine agree_of_at? (fun slot => ?_) htranslating
  rw [hslots]
  cases hstub : (ofPages pages).at? slot with
  | none => rfl
  | some stub =>
      rw [Option.map_some, resume, (current_ofPages halike hstub).2]
      rfl

end Again

end Catalog

end SiteIndex.Site
