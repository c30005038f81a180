import SiteIndex.Proofs.Index.Indexed
import SiteIndex.Proofs.Query.Ranking

/-!
# What the snapshot of a match holds

The values of an attribute are read in the order in which the index saw them, which all pages share,
and a match keeps the first of them that its page carries. So a page with one value of an attribute
keeps this value, and a page with a list keeps the item that the index saw before the others, which
need not be the first of its own list (`snapshot_firstSeen`).
-/

namespace SiteIndex.Query

open Index
open Store.Key (isName)

/-- What a match holds under an attribute, if the index lists the values of the attribute as
`listed` and `page` is the page of the match as it was indexed. -/
structure FirstSeen (listed : List (Value × List String)) (page : Page) (key : String) (m : Match) :
    Prop where
  /-- The page is listed with its own values. -/
  own_iff : ∀ value, value ∈ ownValues page key ↔
    ∃ shasums, (value, shasums) ∈ listed ∧ m.shasum ∈ shasums
  /-- These are the single values of its list, if the attribute is indexed for it. -/
  fanOut : Posts page key →
    ownValues page key = ((page.context.get? key).map Value.fanOut).getD []
  unposted : ¬ Posts page key → ownValues page key = []
  /-- The match has the one of them that is listed first. -/
  lookup : m.context.lookup key = (listed.map (·.1)).find? (· ∈ ownValues page key)
  lookup_none_iff : m.context.lookup key = none ↔ ownValues page key = []
  /-- It is the first of the page's own list if and only if no other of the list was seen
  before. -/
  lookup_head_iff : ∀ first rest, ownValues page key = first :: rest →
    (m.context.lookup key = some first ↔
      ∃ front back, listed.map (·.1) = front ++ first :: back ∧
        ∀ value ∈ front, value ∉ ownValues page key)
  /-- A page with one value has it, whatever the index saw. -/
  single : ∀ value, ownValues page key = [value] → m.context.lookup key = some value

section Carried

variable {r : Reference} {known : String → Option Page} {key shasum : String} {page : Page}

/-- The values that a page is posted under are its own. -/
theorem posted_iff_own (h : r.Indexes known) (hknown : known shasum = some page) {value : Value} :
    r.Posted (key, value) shasum ↔ value ∈ ownValues page key := by
  rw [h.posted_iff, hknown]
  simp

/-- A row of an attribute has a page if its value is one of the page's own. -/
theorem mem_stubs_iff_own (h : r.Indexes known) (hknown : known shasum = some page) {row : Row}
    (hrow : row ∈ r.rowsOf key) : shasum ∈ row.stubs ↔ row.value ∈ ownValues page key := by
  obtain ⟨hmem, hname⟩ := List.mem_filter.1 hrow
  obtain rfl := of_decide_eq_true hname
  rw [← posted_iff_own h hknown]
  constructor
  · exact fun hshasum => ⟨row, hmem, rfl, hshasum⟩
  · rintro ⟨other, hother, hpair, hshasum⟩
    -- There is only one row of the pair.
    rwa [← List.inj_on_of_nodup_map h.nodup_pairs hother hmem hpair]

/-- The first value that a page carries is the first of all values that is one of its own. -/
theorem head?_carried (h : r.Indexes known) (hknown : known shasum = some page) :
    (carried r key shasum).head?
      = ((r.values key).map (·.1)).find? (· ∈ ownValues page key) := by
  have hrows : (r.rowsOf key).filter (shasum ∈ ·.stubs)
      = (r.rowsOf key).filter (·.value ∈ ownValues page key) :=
    List.filter_congr fun row hrow => decide_eq_decide.2 (mem_stubs_iff_own h hknown hrow)
  rw [carried, hrows, List.head?_map, List.head?_filter, Reference.values, List.map_map,
    List.find?_map]
  rfl

/-- The first value that a page carries is what a match should hold of it. -/
theorem firstSeen_of_indexes (h : r.Indexes known) {m : Match} (hknown : known m.shasum = some page)
    (hkey : isName key = true)
    (hlookup : m.context.lookup key = (carried r key m.shasum).head?) :
    FirstSeen (r.values key) page key m where
  own_iff value := by
    rw [← posted_iff_own h hknown]
    constructor
    · rintro ⟨row, hrow, hpair, hshasum⟩
      obtain ⟨rfl, rfl⟩ := Prod.mk.inj hpair
      exact ⟨row.stubs, Reference.mem_values_iff.2 hrow, hshasum⟩
    · rintro ⟨shasums, hvalue, hshasum⟩
      exact ⟨_, Reference.mem_values_iff.1 hvalue, rfl, hshasum⟩
  fanOut := ownValues_eq_fanOut hkey
  unposted := ownValues_eq_nil
  lookup := hlookup.trans (head?_carried h hknown)
  lookup_none_iff := by
    rw [hlookup, List.head?_eq_none_iff, List.eq_nil_iff_forall_not_mem,
      List.eq_nil_iff_forall_not_mem]
    exact forall_congr' fun value => not_congr (mem_carried_iff.trans (posted_iff_own h hknown))
  lookup_head_iff first rest hown := by
    rw [hlookup.trans (head?_carried h hknown), List.find?_eq_some_iff_append]
    simp [hown]
  single value hown := by
    rw [hlookup]
    cases hfirst : (carried r key m.shasum).head? with
    | none =>
        have hvalue : value ∈ carried r key m.shasum :=
          mem_carried_iff.2 ((posted_iff_own h hknown).2 (by simp [hown]))
        rw [List.head?_eq_none_iff.1 hfirst] at hvalue
        cases hvalue
    | some first =>
        have hposted := mem_carried_iff.1 (List.mem_of_mem_head? hfirst)
        rw [posted_iff_own h hknown, hown, List.mem_singleton] at hposted
        rw [hposted]

end Carried

/-- Whatever changes led to the index, a match of a statement is a page that is indexed, and under
every attribute it holds the value of the page that the index saw first. This is the first item of
the page's own list only if the index saw no other item of it before. -/
theorem snapshot_firstSeen {s : Store} (hs : s.Holds ∅) (ops : List Change)
    (hdistinct : Distinct (Used ops))
    (hfits : ∀ front, front <+: ops → (refer {} front).2.Fits) (q : Statement)
    {result : MatchResult} (hrun : ((run .context q).run (serve s ops).2).1 = .ok result)
    {m : Match} (hm : m ∈ result.matched) :
    ∃ page, indexedPage ops m.shasum = some page ∧
      ∀ key ∈ q.contextKeys, ∃ listed,
        ((Attributes.values key).run (serve s ops).2).1 = .ok listed ∧
          FirstSeen listed page key m := by
  have hstart : Stands (Used ops) (fun _ _ => none) s {} := stands_empty hs
  have hused : ∀ op ∈ ops, ∀ p ∈ op.pairs, Used ops p.2 :=
    fun op hop p hp => ⟨op, hop, p, hp, rfl⟩
  have hstands := (hstart.serve hdistinct ops hused hfits).2
  have ⟨f, hshows, hfollows⟩ := hstands
  have hkeys : ∀ key ∈ q.contextKeys, isName key = true := by
    by_contra hinvalid
    obtain ⟨fault, hfault⟩ := takes_run_invalid (t := fun _ _ => none) hfollows hdistinct hinvalid
    exact nomatch (hfault _ hshows).1.symm.trans hrun
  have hnames : ∀ key ∈ q.expression.keys, isName key = true :=
    fun key hkey => hkeys key (mem_sortNames.2 (List.mem_append_left _ hkey))
  obtain ⟨out, hevaluate, htells⟩ :=
    takes_evaluate (t := fun _ _ => none) hfollows hdistinct q.expression hnames
  cases out with
  | error fault =>
      have hfault : Action.Takes (Posting.Shows (fun _ _ => none) .context) (run .context q) f
          (.error fault) f := Action.Takes.bind_error hevaluate
      exact nomatch (hfault _ hshows).1.symm.trans hrun
  | ok hits =>
      have hsorted := takes_run_sorted hfollows hdistinct hkeys hevaluate htells.2 q.limit q.offset
      obtain rfl := Except.ok.inj ((hsorted _ hshows).1.symm.trans hrun)
      obtain ⟨index, hindex, rfl⟩ := exists_pageOf ((window_sublist _ _ _).subset hm)
      have hsatisfies := (stub_of_numbers hfollows ((htells.2 index).1 hindex)).2.2
      obtain ⟨p, hposted⟩ := exists_posted_of_satisfies hsatisfies
      obtain ⟨page, hpage, _⟩ := ((refer_indexes ops).posted_iff p _).1 hposted
      refine ⟨page, hpage, fun key hkey => ⟨(refer {} ops).2.values key, ?_, ?_⟩⟩
      · exact (takes_values hdistinct ⟨key, hkeys key hkey⟩ _ hstands).1
      · exact firstSeen_of_indexes (refer_indexes ops) hpage (hkeys key hkey)
          (lookup_firsts hkey _)

/-- A page with the tags a and b holds b if another page with this tag was there before, and a if
it is alone. -/
theorem snapshot_firstSeen_shared :
    let stub (shasum : String) : Page.Stub :=
      { shasum, source := "a.md", mount := "/", language := "en", fallback := "en" }
    let page (tags : List Value) : Page :=
      { shasum := "", source := "a.md", url := "/a", title := "", description := "",
        language := "en", format := "md", sectionName := "", permalink := none, redirects := [],
        translates := none, created := ⟨0, 0, 0⟩, updated := ⟨0, 0, 0⟩, content := "",
        frontmatter := ∅, context := NameMap.ofList [("tags", .list tags)] }
    let other : Change := .add (stub "x") (page [.text "b"])
    let own : Change := .add (stub "y") (page [.text "a", .text "b"])
    let s : Store := .buffered (.make (.ofBackend .sqlite false) 2 3)
    let q : Statement := { expression := .operation "tags" .eq (.literal "a") }
    let held (ops : List Change) (value : Value) : Prop :=
      ∃ result, ((run .context q).run (serve s ops).2).1 = .ok result ∧
        ∃ m ∈ result.matched, m.shasum = "y" ∧ m.context.lookup "tags" = some value
    ownValues (page [.text "a", .text "b"]) "tags" = [.text "a", .text "b"] ∧
      held [other, own] (.text "b") ∧ held [own] (.text "a") := by
  intro stub page other own s q held
  have hpairs : ∀ ops ∈ [[other, own], [own]], ∀ op ∈ ops, ∀ p ∈ op.pairs,
      p.2 ∈ [Value.text "a", .text "b"] := by decide
  have hfew : ∀ ops ∈ [[other, own], [own]],
      ops.length < UInt32.size ∧ (ops.flatMap Change.pairs).length < UInt32.size := by decide
  have hstored : ∀ v ∈ [Value.text "a", .text "b"], v.Storable := by
    simp only [List.forall_mem_cons, Value.Storable]
    exact ⟨by decide, by decide, List.forall_mem_nil _⟩
  have hdistinct : Distinct (· ∈ [Value.text "a", .text "b"]) :=
    distinct_of_nodup hstored (by decide +kernel)
  have hheld : ∀ ops ∈ [[other, own], [own]], ∀ listed,
      ((run .context q).run (serve s ops).2).1.map (·.matched.map (·.shasum)) = .ok ["y"] →
      ((Attributes.values "tags").run (serve s ops).2).1 = .ok listed →
      indexedPage ops "y" = some (page [.text "a", .text "b"]) →
      ∃ result, ((run .context q).run (serve s ops).2).1 = .ok result ∧
        ∃ m ∈ result.matched, m.shasum = "y" ∧ m.context.lookup "tags"
          = (listed.map (·.1)).find? (· ∈ ownValues (page [.text "a", .text "b"]) "tags") := by
    intro ops hops listed hmatched hlisted hpage
    cases hrun : ((run .context q).run (serve s ops).2).1 with
    | error fault =>
        rw [hrun] at hmatched
        cases hmatched
    | ok result =>
        rw [hrun] at hmatched
        have hshasums : result.matched.map (·.shasum) = ["y"] := Except.ok.inj hmatched
        obtain ⟨m, hm, hshasum⟩ := List.mem_map.1 (hshasums ▸ List.mem_singleton_self "y")
        obtain ⟨page', hpage', hfirst⟩ := snapshot_firstSeen (Store.holds_buffered .sqlite 2 3) ops
          (hdistinct.used (hpairs ops hops))
          (fits_of_few ops (hfew ops hops).1 (hfew ops hops).2) q hrun hm
        obtain ⟨listed', hlisted', hseen⟩ := hfirst "tags" (by decide)
        rw [hshasum, hpage] at hpage'
        cases hpage'
        rw [hlisted] at hlisted'
        cases hlisted'
        exact ⟨result, rfl, m, hm, hshasum, hseen.lookup⟩
  refine ⟨by decide, ?_, ?_⟩
  · exact hheld [other, own] (by simp) [(.text "b", ["x", "y"]), (.text "a", ["y"])]
      (by decide +kernel) (by decide +kernel) rfl
  · exact hheld [own] (by simp) [(.text "a", ["y"]), (.text "b", ["y"])] (by decide +kernel)
      (by decide +kernel) rfl

end SiteIndex.Query
