import SiteIndex.Proofs.Engine.BuiltIns
import SiteIndex.Proofs.Files.Path
import SiteIndex.Proofs.Site.Slots
import SiteIndex.Proofs.Window

/-!
# Pages below an address

One address lies below another as a text exactly if its parts begin with those of the other
(`isUnder_normalizeUrl`), so that a name that goes on from another name is not below it. A look-up
for all pages below an address comes upon the trees of the mounts one after the other, and a page
may be in them under several addresses: it is found at the least of those in the first mount that
has one. The pages are put in the order of the addresses at which they were found, and those of one
address in the order of the mounts (`lookupPrefix_finds`).
-/

namespace SiteIndex

open Files (cleanPath joinPath pathParts)

/-! ## Addresses below others -/

namespace Page

/-- An address has the parts of the path that it is the spelling of. -/
theorem pathParts_normalizeUrl (url : String) : pathParts (normalizeUrl url) = pathParts url := by
  rw [normalizeUrl, ← String.empty_append (s := "/"), Files.pathParts_append,
    Files.pathParts_cleanPath]
  rfl

/-- Addresses of the same parts are the same. -/
theorem normalizeUrl_eq_iff {url url' : String} :
    normalizeUrl url = normalizeUrl url' ↔ pathParts url = pathParts url' := by
  constructor
  · intro h
    rw [← pathParts_normalizeUrl url, h, pathParts_normalizeUrl]
  · intro h
    rw [normalizeUrl, cleanPath, h, normalizeUrl, cleanPath]

end Page

/-! ## The first of each key -/

/-- The items whose keys no item before them has. -/
def firstOfEach {α κ : Type} [DecidableEq κ] (key : α → κ) : List α → List α
  | [] => []
  | a :: rest => a :: (firstOfEach key rest).filter (key · ≠ key a)

section Firsts

variable {α κ : Type} [DecidableEq κ] {key : α → κ} {items : List α}

/-- A loop that keeps each item whose key is not kept yet keeps the first items of the others. -/
theorem foldl_firstOfEach (key : α → κ) (items kept : List α) :
    items.foldl (fun kept a => if kept.any (key · = key a) then kept else kept ++ [a]) kept
      = kept ++ (firstOfEach key items).filter (key · ∉ kept.map key) := by
  induction items generalizing kept with
  | nil => exact (List.append_nil kept).symm
  | cons a rest ih =>
      have hany : kept.any (key · = key a) = true ↔ key a ∈ kept.map key := by simp
      rw [List.foldl_cons, ih, firstOfEach]
      by_cases h : key a ∈ kept.map key
      · rw [if_pos (hany.2 h), List.filter_cons_of_neg (by simpa using h), List.filter_filter]
        refine congrArg _ (List.filter_congr fun b _ => ?_)
        have himp : key b ∉ kept.map key → key b ≠ key a := fun hb heq => hb (heq ▸ h)
        simpa using himp
      · rw [if_neg (h ∘ hany.1), List.filter_cons_of_pos (by simpa using h), List.filter_filter,
          List.append_assoc, List.singleton_append]
        refine congrArg (kept ++ a :: ·) (List.filter_congr fun b _ => ?_)
        simp

/-- The items that are kept are some of the items, in their order. -/
theorem firstOfEach_sublist (key : α → κ) (items : List α) :
    (firstOfEach key items).Sublist items := by
  induction items with
  | nil => exact List.Sublist.refl _
  | cons a rest ih => exact (List.filter_sublist.trans ih).cons_cons a

/-- All keys are kept. -/
theorem mem_map_firstOfEach {k : κ} : k ∈ (firstOfEach key items).map key ↔ k ∈ items.map key := by
  induction items with
  | nil => rfl
  | cons a rest ih =>
      have hrest : k ∈ ((firstOfEach key rest).filter (key · ≠ key a)).map key ↔
          k ∈ rest.map key ∧ k ≠ key a := by
        rw [← ih]
        simp only [List.mem_map, List.mem_filter, decide_eq_true_eq]
        constructor
        · rintro ⟨b, ⟨hb, hne⟩, rfl⟩
          exact ⟨⟨b, hb, rfl⟩, hne⟩
        · rintro ⟨⟨b, hb, rfl⟩, hne⟩
          exact ⟨b, ⟨hb, hne⟩, rfl⟩
      rw [firstOfEach, List.map_cons, List.mem_cons, hrest, List.map_cons, List.mem_cons]
      tauto

/-- No key is kept twice. -/
theorem nodup_map_firstOfEach (key : α → κ) (items : List α) :
    ((firstOfEach key items).map key).Nodup := by
  induction items with
  | nil => exact List.nodup_nil
  | cons a rest ih =>
      refine List.nodup_cons.2 ⟨fun hmem => ?_, ih.sublist (List.filter_sublist.map key)⟩
      obtain ⟨b, hb, heq⟩ := List.mem_map.1 hmem
      exact of_decide_eq_true (List.mem_filter.1 hb).2 heq

/-- Of items in an order those are kept that come before all others with their keys. -/
theorem mem_firstOfEach_iff {before : α → α → Prop} (hasymm : ∀ a b, before a b → ¬ before b a)
    (hbefore : items.Pairwise before) {a : α} :
    a ∈ firstOfEach key items ↔ a ∈ items ∧ ∀ b ∈ items, key b = key a → b = a ∨ before a b := by
  induction items with
  | nil => exact iff_of_false List.not_mem_nil fun h => List.not_mem_nil h.1
  | cons c rest ih =>
      obtain ⟨hc, hrest⟩ := List.pairwise_cons.1 hbefore
      rw [firstOfEach, List.mem_cons, List.mem_filter, ih hrest, decide_eq_true_eq, List.mem_cons,
        List.forall_mem_cons]
      constructor
      · rintro (rfl | ⟨⟨ha, h⟩, hne⟩)
        · exact ⟨.inl rfl, fun _ => .inl rfl, fun b hb _ => .inr (hc b hb)⟩
        · exact ⟨.inr ha, fun heq => absurd heq.symm hne, h⟩
      · rintro ⟨rfl | ha, hfirst, h⟩
        · exact .inl rfl
        · refine .inr ⟨⟨ha, h⟩, fun heq => ?_⟩
          -- The item in front comes before this one, and not the other way round.
          have hback : ¬ before a c := hasymm c a (hc a ha)
          obtain rfl := (hfirst heq.symm).resolve_right hback
          exact hback (hc c ha)

end Firsts

namespace Site.Catalog

open Page (Stub normalizeTag normalizeUrl pathParts_normalizeUrl normalizeUrl_eq_iff)

/-- An address lies below another one if its parts go on from those of the other. -/
theorem isUnder_normalizeUrl (top url : String) :
    isUnder (normalizeUrl top) (normalizeUrl url) = true ↔ pathParts top <+: pathParts url := by
  rw [isUnder, Bool.or_eq_true, decide_eq_true_eq, normalizeUrl_eq_iff, Option.isSome_iff_exists]
  simp only [Files.dropFront?_eq_some_iff]
  by_cases hroot : pathParts top = []
  · -- The root is the one address that ends with a slash.
    have htop : normalizeUrl top = "/" := by rw [normalizeUrl, cleanPath, hroot]; rfl
    rw [htop, if_pos rfl, hroot]
    exact iff_of_true (.inr ⟨_, rfl⟩) (List.nil_prefix)
  · have htop : normalizeUrl top ≠ "/" := by
      intro heq
      rw [← pathParts_normalizeUrl, heq] at hroot
      exact hroot rfl
    rw [if_neg htop]
    constructor
    · rintro (heq | ⟨rest, hrest⟩)
      · exact heq ▸ List.prefix_rfl
      · rw [← pathParts_normalizeUrl url, hrest, Files.pathParts_append, pathParts_normalizeUrl]
        exact List.prefix_append _ _
    · rintro ⟨others, hothers⟩
      by_cases hnil : others = []
      · exact .inl (by rw [← hothers, hnil, List.append_nil])
      · refine .inr ⟨joinPath others, ?_⟩
        rw [normalizeUrl, cleanPath, ← hothers, Files.joinPath_append hroot hnil, normalizeUrl,
          cleanPath]
        simp only [String.append_assoc]

-- A name that goes on from another one is not below it.
example : isUnder "/fr" "/fr/a" = true ∧ isUnder "/fr" "/fresh" = false := by decide

/-! ## What a look-up comes upon -/

/-- Texts are compared by their order. -/
theorem isLE_compare_text (a b : String) : (compare a b).isLE = decide (a ≤ b) := by
  rw [Bool.eq_iff_iff, decide_eq_true_eq]
  exact isLE_compareOfLessAndEq String.le_antisymm String.not_le String.le_total

/-- A page in the tree of a mount: the number of the mount, the address and the stub. -/
structure Hit where
  number : Nat
  address : String
  stub : Stub

/-- Mounts come in their order, and the addresses of one mount in theirs. -/
def Hit.Before (hit other : Hit) : Prop :=
  hit.number < other.number ∨ hit.number = other.number ∧ hit.address < other.address

/-- The order of hits goes one way. -/
theorem Hit.Before.asymm (hit other : Hit) (h : hit.Before other) : ¬ other.Before hit := by
  rintro (hback | ⟨heq, hback⟩)
  · rcases h with hlt | ⟨heq, -⟩ <;> omega
  · rcases h with hlt | ⟨-, hlt⟩
    · omega
    · exact String.lt_irrefl _ (String.lt_trans hlt hback)

/-- Hits that are sorted by their addresses, with those of one address in their order. -/
theorem lt_of_compareOn {hit other : Hit} (h : compareOn Hit.address hit other = .lt ∨
      compareOn Hit.address hit other = .eq ∧ hit.Before other) :
    hit.address < other.address ∨ hit.address = other.address ∧ hit.number < other.number := by
  rcases h with hlt | ⟨heq, hbefore⟩
  · exact .inl (compareOfLessAndEq_eq_lt.1 hlt)
  · have haddress : hit.address = other.address := Std.LawfulEqCmp.eq_of_compare heq
    refine .inr ⟨haddress, hbefore.resolve_right fun h => ?_⟩
    exact String.lt_irrefl _ (haddress ▸ h.2)

section Hits

variable (c : Catalog) (points : List String) (language : String)

/-- The pages of all mounts in a language. -/
def hits : List Hit :=
  points.zipIdx.flatMap fun p =>
    (c.treeAt p.1 language).urls.entries.map fun e => ⟨p.2, e.1, e.2⟩

/-- The pages of all mounts in a language at an address or below it. -/
def hitsUnder (top : String) : List Hit :=
  (c.hits points language).filter (isUnder top ·.address)

/-- The page is registered in a mount in a language at the address. -/
def Registers (hit : Hit) : Prop :=
  ∃ point tree, points[hit.number]? = some point ∧ c.tree? point language = some tree ∧
    tree.urls.get? hit.address = some hit.stub

/-- A tree that may have no pages has the addresses of the tree that there is. -/
theorem get?_treeAt_eq_some_iff {point address : String} {stub : Stub} :
    (c.treeAt point language).urls.get? address = some stub ↔
      ∃ tree, c.tree? point language = some tree ∧ tree.urls.get? address = some stub := by
  rw [treeAt]
  cases c.tree? point language with
  | none =>
      refine iff_of_false (Option.some_ne_none stub).symm ?_
      rintro ⟨tree, htree, -⟩
      exact Option.some_ne_none tree htree.symm
  | some tree => simp

variable {c points language}

/-- What is come upon is what is registered. -/
theorem mem_hits_iff {hit : Hit} :
    hit ∈ c.hits points language ↔ c.Registers points language hit := by
  simp only [hits, List.mem_flatMap, List.mem_map, Registers]
  constructor
  · rintro ⟨⟨point, number⟩, hpoint, ⟨address, stub⟩, he, rfl⟩
    obtain ⟨tree, htree, hstub⟩ :=
      (get?_treeAt_eq_some_iff c language).1 (NameMap.get?_eq_some_iff.2 he)
    exact ⟨point, tree, List.mk_mem_zipIdx_iff_getElem?.1 hpoint, htree, hstub⟩
  · rintro ⟨point, tree, hpoint, htree, hstub⟩
    exact ⟨(point, hit.number), List.mk_mem_zipIdx_iff_getElem?.2 hpoint, (hit.address, hit.stub),
      NameMap.get?_eq_some_iff.1 ((get?_treeAt_eq_some_iff c language).2 ⟨tree, htree, hstub⟩), rfl⟩

/-- Pages are come upon in the order of their mounts and addresses. -/
theorem pairwise_hits : (c.hits points language).Pairwise Hit.Before := by
  refine List.pairwise_flatMap.2 ⟨fun p _ => ?_, ?_⟩
  · exact List.pairwise_map.2
      ((c.treeAt p.1 language).urls.ascending.imp fun hlt => .inr ⟨rfl, hlt⟩)
  · have hnumbers : points.zipIdx.Pairwise (·.2 < ·.2) := by
      rw [← List.pairwise_map (R := (· < ·)), List.zipIdx_map_snd]
      exact List.pairwise_lt_range' 1
    refine hnumbers.imp fun hlt hit hhit other hother => ?_
    obtain ⟨e, -, rfl⟩ := List.mem_map.1 hhit
    obtain ⟨e', -, rfl⟩ := List.mem_map.1 hother
    exact .inl hlt

/-- So are those below an address. -/
theorem pairwise_hitsUnder {top : String} :
    (c.hitsUnder points language top).Pairwise Hit.Before := pairwise_hits.filter _

/-- The address and the stub of a hit. -/
def Hit.entry (hit : Hit) : String × Stub := (hit.address, hit.stub)

/-- Going through the trees finds the first hit of each page at an address or below it. -/
theorem foldl_entriesUnder_eq (top : String) :
    points.foldl (fun found point => entriesUnder top found (c.treeAt point language)) []
      = (firstOfEach (·.stub.shasum) (c.hitsUnder points language top)).map Hit.entry := by
  let enter (found : List (String × Stub)) (hit : Hit) : List (String × Stub) :=
    if found.any (·.2.shasum = hit.stub.shasum) then found else found ++ [hit.entry]
  have htree : ∀ (found : List (String × Stub)) (p : String × Nat),
      entriesUnder top found (c.treeAt p.1 language)
        = ((c.treeAt p.1 language).urls.entries.map fun e => (⟨p.2, e.1, e.2⟩ : Hit)).foldl
            (fun found hit => if isUnder top hit.address then enter found hit else found)
            found := by
    intro found p
    rw [entriesUnder, List.foldl_map]
    congr 1
    funext found e
    show _ = if isUnder top e.1 then (if found.any (·.2.shasum = e.2.shasum) then found
      else found ++ [e]) else found
    cases isUnder top e.1 <;> cases found.any (·.2.shasum = e.2.shasum) <;> rfl
  have henter : ∀ (kept : List Hit) (hit : Hit), enter (kept.map Hit.entry) hit
      = (if kept.any (·.stub.shasum = hit.stub.shasum) then kept else kept ++ [hit]).map
          Hit.entry := by
    intro kept hit
    show (if (kept.map Hit.entry).any _ then _ else _) = _
    rw [List.any_map, apply_ite (List.map Hit.entry), List.map_append]
    rfl
  calc points.foldl (fun found point => entriesUnder top found (c.treeAt point language)) []
      = points.zipIdx.foldl (fun found p => entriesUnder top found (c.treeAt p.1 language)) [] := by
        conv_lhs => rw [← List.zipIdx_map_fst 0 points, List.foldl_map]
    _ = (c.hitsUnder points language top).foldl enter [] := by
        simp only [htree]
        rw [hitsUnder, ← List.foldl_flatMap, ← List.foldl_filter]
        rfl
    _ = _ := by
        rw [show ([] : List (String × Stub)) = ([] : List Hit).map Hit.entry from rfl,
          List.foldl_hom (List.map Hit.entry) henter, foldl_firstOfEach]
        simp

/-- The look-up keeps the first hit of each page at the address or below it, and puts them in the
order of their addresses. -/
theorem lookupPrefix_eq (url : String) : c.lookupPrefix points language url
    = ((firstOfEach (·.stub.shasum)
        (c.hitsUnder points (normalizeTag language) (normalizeUrl url))).mergeSort
          fun hit other => (compare hit.address other.address).isLE).map (·.stub) := by
  rw [lookupPrefix, foldl_entriesUnder, foldl_entriesUnder_eq, ← List.map_mergeSort (f := Hit.entry)
    (r := fun hit other => (compare hit.address other.address).isLE), List.map_map]
  · rfl
  · exact fun hit _ other _ => isLE_compare_text hit.address other.address

end Hits

/-! ## Pages that are found -/

section Found

/-- The page is registered in a mount at the address or below it. -/
structure IsHit (c : Catalog) (points : List String) (language top : String) (hit : Hit) :
    Prop where
  registers : c.Registers points language hit
  below : pathParts top <+: pathParts hit.address

/-- The page is found at the least address that it has in the first mount that has one. -/
structure Finds (c : Catalog) (points : List String) (language top : String) (hit : Hit) :
    Prop where
  isHit : c.IsHit points language top hit
  mount : ∀ other, c.IsHit points language top other → other.stub.shasum = hit.stub.shasum →
    hit.number ≤ other.number
  address : ∀ other, c.IsHit points language top other → other.stub.shasum = hit.stub.shasum →
    other.number = hit.number → hit.address ≤ other.address

variable {c : Catalog} {points : List String} {language : String}

/-- A page that is registered has a slot of the catalog. -/
theorem Registers.exists_slot {hit : Hit} (h : c.Registers points language hit) :
    ∃ point, c.at? (.url point language hit.address) = some hit.stub := by
  obtain ⟨point, tree, -, htree, hstub⟩ := h
  refine ⟨point, ?_⟩
  rw [← get?_treeAt]
  exact (get?_treeAt_eq_some_iff c language).2 ⟨tree, htree, hstub⟩

/-- At an address of a mount is one page. -/
theorem Registers.eq {hit other : Hit} (h : c.Registers points language hit)
    (h' : c.Registers points language other) (hnumber : other.number = hit.number)
    (haddress : other.address = hit.address) : other = hit := by
  obtain ⟨point, tree, hpoint, htree, hstub⟩ := h
  obtain ⟨point', tree', hpoint', htree', hstub'⟩ := h'
  rw [hnumber, hpoint] at hpoint'
  obtain rfl := Option.some.inj hpoint'
  rw [htree] at htree'
  obtain rfl := Option.some.inj htree'
  rw [haddress, hstub] at hstub'
  obtain ⟨number, address, stub⟩ := hit
  obtain ⟨number', address', stub'⟩ := other
  obtain rfl := Option.some.inj hstub'
  rw [show number' = number from hnumber, show address' = address from haddress]

/-- In the catalog of a rebuild all addresses are in their one spelling. -/
theorem exists_text_of_registers {site : Site} {previous : NameMap Stub} {hit : Hit}
    (h : (ofPages (site.made previous)).Registers points language hit) :
    ∃ text, hit.address = normalizeUrl text := by
  obtain ⟨point, hslot⟩ := h.exists_slot
  obtain ⟨page, hpage, -, haddress⟩ := exists_page_of_at? hslot
  have haddressed := (isMade_of_mem_made hpage).eqs.2
  rcases haddress with hurl | hpermalink
  · exact hurl ▸ haddressed.url
  · rw [haddressed.permalink] at hpermalink
    obtain ⟨text, -, htext⟩ := Option.map_eq_some_iff.1 hpermalink
    exact ⟨text, htext.symm⟩

/-- Where addresses are in their one spelling, the pages that are come upon below an address are
those whose addresses have its parts in front. -/
theorem mem_hitsUnder_iff (url : String)
    (haddress : ∀ hit, c.Registers points language hit → ∃ text, hit.address = normalizeUrl text)
    {hit : Hit} : hit ∈ c.hitsUnder points language (normalizeUrl url) ↔
      c.IsHit points language (normalizeUrl url) hit := by
  have hbelow : c.Registers points language hit →
      (isUnder (normalizeUrl url) hit.address = true ↔
        pathParts (normalizeUrl url) <+: pathParts hit.address) := by
    intro h
    obtain ⟨text, htext⟩ := haddress hit h
    rw [htext, isUnder_normalizeUrl, pathParts_normalizeUrl, pathParts_normalizeUrl]
  rw [hitsUnder, List.mem_filter, mem_hits_iff]
  exact ⟨fun ⟨h, hunder⟩ => ⟨h, (hbelow h).1 hunder⟩, fun ⟨h, hunder⟩ => ⟨h, (hbelow h).2 hunder⟩⟩

/-- The first hits of pages are those at which the pages are found. -/
theorem mem_firstOfEach_iff_finds {top : String}
    (hmem : ∀ hit, hit ∈ c.hitsUnder points language top ↔ c.IsHit points language top hit)
    (hit : Hit) : hit ∈ firstOfEach (·.stub.shasum) (c.hitsUnder points language top) ↔
      c.Finds points language top hit := by
  rw [mem_firstOfEach_iff Hit.Before.asymm pairwise_hitsUnder, hmem]
  simp only [hmem]
  constructor
  · rintro ⟨hhit, hfirst⟩
    refine ⟨hhit, fun other hother hsame => ?_, fun other hother hsame hnumber => ?_⟩
    · rcases hfirst other hother hsame with rfl | hlt | ⟨heq, -⟩
      · exact Nat.le_refl _
      · exact Nat.le_of_lt hlt
      · exact Nat.le_of_eq heq
    · rcases hfirst other hother hsame with rfl | hlt | ⟨-, hlt⟩
      · exact String.le_refl _
      · omega
      · exact le_of_lt hlt
  · rintro ⟨hhit, hmount, haddress⟩
    refine ⟨hhit, fun other hother hsame => ?_⟩
    rcases Nat.lt_or_eq_of_le (hmount other hother hsame) with hlt | hnumber
    · exact .inr (.inl hlt)
    · by_cases heq : other.address = hit.address
      · exact .inl (hhit.registers.eq hother.registers hnumber.symm heq)
      · refine .inr (.inr ⟨hnumber, String.not_le.1 fun hle => heq ?_⟩)
        exact String.le_antisymm hle (haddress other hother hsame hnumber.symm)

/-- After a rebuild, a look-up finds the pages that a mount has in the language at the address or
below it: each of them once, and in the order of the addresses at which they are found, with the
mounts in their order. It reads the address in any spelling. -/
theorem lookupPrefix_finds (site : Site) {σ : Type} (indexers : List (Indexer σ))
    (previous : Catalog) (s : σ) (language url : String) :
    let c := ((site.rebuild indexers previous).run s).run.1.2
    let IsHit := c.IsHit site.points (normalizeTag language) (normalizeUrl url)
    let Finds := c.Finds site.points (normalizeTag language) (normalizeUrl url)
    let found := c.lookupPrefix site.points language url
    (found.map (·.shasum)).Nodup ∧
      (∀ shasum, shasum ∈ found.map (·.shasum) ↔ ∃ hit, IsHit hit ∧ hit.stub.shasum = shasum) ∧
      (∀ stub, stub ∈ found ↔ ∃ hit, Finds hit ∧ hit.stub = stub) ∧
      (found.Pairwise fun stub stub' => ∀ hit hit', Finds hit → hit.stub = stub → Finds hit' →
        hit'.stub = stub' →
          hit.address < hit'.address ∨ hit.address = hit'.address ∧ hit.number < hit'.number) ∧
      ∀ url', cleanPath url' = cleanPath url →
        c.lookupPrefix site.points language url' = found := by
  intro c IsHit Finds found
  set tag := normalizeTag language
  set top := normalizeUrl url
  let kept := firstOfEach (·.stub.shasum) (c.hitsUnder site.points tag top)
  let sorted := kept.mergeSort fun hit other => (compare hit.address other.address).isLE
  have hfound : found = sorted.map (·.stub) := lookupPrefix_eq url
  have hperm : sorted.Perm kept := List.mergeSort_perm ..
  have hcatalog : c = .ofPages (site.made previous.stubs) := catalog_rebuild ..
  have hhits : ∀ hit, hit ∈ c.hitsUnder site.points tag top ↔ IsHit hit := fun _ =>
    mem_hitsUnder_iff url fun _ h => exists_text_of_registers (hcatalog ▸ h)
  have hkept : ∀ hit, hit ∈ kept ↔ Finds hit := mem_firstOfEach_iff_finds hhits
  have hshasums : (found.map (·.shasum)).Perm (kept.map (·.stub.shasum)) := by
    rw [hfound, List.map_map]
    exact hperm.map _
  have hnodup : (kept.map (·.stub.shasum)).Nodup := nodup_map_firstOfEach _ _
  refine ⟨hshasums.nodup_iff.2 hnodup, fun shasum => ?_, fun stub => ?_, ?_, fun url' h => ?_⟩
  · rw [hshasums.mem_iff, mem_map_firstOfEach, List.mem_map]
    simp only [hhits]
  · rw [hfound, List.mem_map]
    simp only [hperm.mem_iff, hkept]
  · have hsorted := pairwise_mergeSort_stable (compareOn Hit.address) hnodup.of_map
      (pairwise_hitsUnder.sublist (firstOfEach_sublist _ _))
    rw [hfound, List.pairwise_map]
    have hunique : ∀ {hit other}, Finds hit → other ∈ sorted → hit.stub = other.stub →
        hit = other := fun {hit other} hhit hother heq =>
      List.inj_on_of_nodup_map hnodup ((hkept hit).2 hhit) (hperm.mem_iff.1 hother)
        (congrArg (·.shasum) heq)
    refine hsorted.imp_of_mem fun {a b} ha hb hordered hit hit' hhit hstub hhit' hstub' => ?_
    obtain rfl := hunique hhit ha hstub
    obtain rfl := hunique hhit' hb hstub'
    exact lt_of_compareOn hordered
  · show c.lookupPrefix _ _ _ = c.lookupPrefix _ _ _
    rw [lookupPrefix, normalizeUrl, h, lookupPrefix, normalizeUrl]

end Found

end Site.Catalog

end SiteIndex
