import SiteIndex.Engine
import SiteIndex.Proofs.Index.Reordering
import SiteIndex.Proofs.Query.Ranking

/-!
# Queries over pages that were added in another order

Another order of adding pages gives them other numbers and their values other slots, but which pages
satisfy an expression depends only on what is posted (`satisfies_congr`), and so does the order of
the matches as long as no page has two values of the order key and these are of one type
(`Answers.shasums_eq`). So a statement that does not compare attributes with each other is answered
as it is over any other order of the pages (`run_reordered`).
-/

namespace SiteIndex.Query

open Index (Attributes.postings Change Distinct Follows Reference Used additions fits_of_perm refer
  same_of_perm serve)
open Page (Stub)
open Posting
open Std
open Store (Namespace)
open Store.Key (isName)
open SiteIndex.Action (Takes)
open Text.Natural (compareText)
open Value (Unmixed)

/-- Some operand is another attribute of the page. -/
def Expression.hasReference : Expression → Bool
  | .condition _ left right => left.hasReference || right.hasReference
  | .operation _ _ (.reference _) => true
  | .operation _ _ _ => false

/-! ## References that say the same -/

section Same

variable {r r' : Reference} {shasum : String}

/-- What an operand hits depends on what is posted. -/
theorem hits_congr (h : r.Same r') (key : String) (operand : Operand) :
    Hits r key shasum operand ↔ Hits r' key shasum operand := by
  cases operand <;> simp only [Hits, h.posted]

/-- Which pages satisfy an expression depends on what is posted. -/
theorem satisfies_congr (h : r.Same r') (e : Expression) :
    Satisfies r shasum e ↔ Satisfies r' shasum e := by
  induction e with
  | condition kind left right ihl ihr =>
      cases kind with
      | and => exact and_congr ihl ihr
      | or => exact or_congr ihl ihr
  | operation key op operand =>
      unfold Satisfies
      cases op.isNegated with
      | true =>
          exact and_congr (exists_congr fun v => h.posted (key, v) shasum)
            (not_congr (hits_congr h key operand))
      | false => exact hits_congr h key operand

/-- Whether an expression is refused depends on what is posted, unless it compares attributes. Then
the first of the values that a page carries may decide. -/
theorem refused_congr (h : r.Same r') {e : Expression} (he : e.hasReference = false) :
    Refused r e ↔ Refused r' e := by
  induction e with
  | condition kind left right ihl ihr =>
      obtain ⟨hleft, hright⟩ := Bool.or_eq_false_iff.1 he
      exact or_congr (ihl hleft) (ihr hright)
  | operation key op operand =>
      cases operand with
      | literal text => simp only [Refused, Refuses, h.posted]
      | pattern p => simp only [Refused, Refuses, h.posted]
      | reference other => cases he

/-- The first value of a page that has only one depends on what is posted. -/
theorem head?_carried_congr (h : r.Same r') {key : String}
    (hsingle : ∀ v w, r.Posted (key, v) shasum → r.Posted (key, w) shasum → v = w) :
    (carried r key shasum).head? = (carried r' key shasum).head? := by
  have hmem : ∀ v, v ∈ carried r key shasum ↔ v ∈ carried r' key shasum := by
    intro v
    rw [mem_carried_iff, mem_carried_iff]
    exact h.posted (key, v) shasum
  cases hfirst : (carried r key shasum).head? with
  | none =>
      rw [List.head?_eq_none_iff] at hfirst
      symm
      rw [List.head?_eq_none_iff, List.eq_nil_iff_forall_not_mem]
      intro v hv
      rw [← hmem, hfirst] at hv
      cases hv
  | some v =>
      have hv := List.mem_of_mem_head? hfirst
      cases hfirst' : (carried r' key shasum).head? with
      | none =>
          rw [List.head?_eq_none_iff] at hfirst'
          rw [hmem, hfirst'] at hv
          cases hv
      | some w =>
          have hw := (hmem w).2 (List.mem_of_mem_head? hfirst')
          rw [hsingle v w (mem_carried_iff.1 hv) (mem_carried_iff.1 hw)]

end Same

/-! ## The order of shasums -/

/-- One page stands before another by their values, and by their shasums where these are level. -/
def PrecedesBy (value : String → Option Value) (direction : Direction) (a b : String) : Prop :=
  match value a, value b with
  | some x, some y => direction.orient (x.compareTo y) = .lt ∨
      (x.compareTo y = .eq ∧ compareText a b = .lt)
  | some _, none => True
  | none, some _ => False
  | none, none => compareText a b = .lt

/-- Of two texts only one stands before the other. -/
theorem not_compareText_lt {a b : String} (h : compareText a b = .lt) :
    ¬ compareText b a = .lt := by
  rw [OrientedCmp.gt_of_lt h]
  nofun

/-- No page stands before one that stands before it. -/
theorem PrecedesBy.asymm {value : String → Option Value} {direction : Direction} {a b : String}
    (hunmixed : ∀ v ∈ value a, ∀ w ∈ value b, Unmixed v w)
    (h : PrecedesBy value direction a b) : ¬ PrecedesBy value direction b a := by
  unfold PrecedesBy at h ⊢
  cases hx : value a with
  | none =>
      rw [hx] at h
      cases hy : value b with
      | none =>
          rw [hy] at h
          exact not_compareText_lt h
      | some y =>
          rw [hy] at h
          cases h
  | some x =>
      rw [hx] at h
      cases hy : value b with
      | none => exact not_false
      | some y =>
          rw [hy] at h
          have hswap : y.compareTo x = (x.compareTo y).swap :=
            Value.compareTo_swap (hunmixed x hx y hy)
          show ¬ (direction.orient (y.compareTo x) = .lt ∨
            (y.compareTo x = .eq ∧ compareText b a = .lt))
          rw [hswap]
          rcases h with h | ⟨h, hshasum⟩
          · cases direction <;> cases hxy : x.compareTo y <;> simp_all [Direction.orient]
          · rw [h]
            cases direction <;> simp [Direction.orient, not_compareText_lt hshasum]

section Answers

variable {r r' : Reference} {q : Statement} {ranked ranked' : List Match}

/-- The shasums of an answer stand in the order of their first values. -/
theorem Answers.pairwise_shasums (h : Answers r q ranked) : (ranked.map (·.shasum)).Pairwise
    (PrecedesBy (fun shasum => (carried r q.orderKey shasum).head?) q.direction) := by
  have hkey : q.orderKey ∈ q.contextKeys :=
    mem_sortNames.2 (List.mem_append_right _ (List.mem_singleton_self _))
  refine List.pairwise_map.2 (h.ordered.imp_of_mem fun {a b} ha hb hab => ?_)
  unfold Precedes at hab
  rw [h.context a ha, h.context b hb, lookup_firsts hkey, lookup_firsts hkey] at hab
  exact hab

/-- References that say the same give the same answer if the values that order it do not depend on
the order of the rows. -/
theorem Answers.shasums_eq (h : Answers r q ranked) (h' : Answers r' q ranked')
    (hsame : r.Same r') (huniform : Uniform r q)
    (hsingle : ∀ shasum v w, r.Posted (q.orderKey, v) shasum → r.Posted (q.orderKey, w) shasum →
      v = w) : ranked.map (·.shasum) = ranked'.map (·.shasum) := by
  have hvalue : (fun shasum => (carried r' q.orderKey shasum).head?)
      = fun shasum => (carried r q.orderKey shasum).head? :=
    funext fun shasum => (head?_carried_congr hsame (hsingle shasum)).symm
  have hperm : (ranked.map (·.shasum)).Perm (ranked'.map (·.shasum)) := by
    refine (List.perm_ext_iff_of_nodup h.nodup h'.nodup).2 fun shasum => ?_
    rw [h.mem_iff, h'.mem_iff]
    exact satisfies_congr hsame q.expression
  have hordered' := h'.pairwise_shasums
  rw [hvalue] at hordered'
  refine hperm.eq_of_pairwise (fun a b ha hb hab hba => absurd hba (hab.asymm ?_))
    h.pairwise_shasums hordered'
  exact huniform a b ((h.mem_iff a).1 ha) ((h.mem_iff b).1 (hperm.mem_iff.2 hb))

end Answers

/-! ## Statements over a store -/

/-- A statement that has no answer: it reads an attribute that is no name, or its expression is
refused. -/
def Unanswerable (r : Reference) (q : Statement) : Prop :=
  (¬ ∀ key ∈ q.contextKeys, isName key = true) ∨ Refused r q.expression

/-- What a store answers to a statement within any window, with all matches in their order. -/
structure Answered (s : Store) (r : Reference) (q : Statement) (found : List Match) : Prop where
  nodup : (found.map (·.shasum)).Nodup
  mem_iff : ∀ shasum, shasum ∈ found.map (·.shasum) ↔ Satisfies r shasum q.expression
  answers : Uniform r q → Answers r q found
  run : ∀ limit offset, ((run .context { q with limit, offset }).run s).1
    = .ok ⟨window found ((offset.map (·.toNat)).getD 0) (limit.map (·.toNat)), found.length⟩

/-- A store that stands for a reference answers a statement, or there is no answer. -/
theorem run_cases {used : Value → Prop} {t : Namespace → Fields} {s : Store} {r : Reference}
    (h : Index.Stands used t s r) (hdistinct : Distinct used) (q : Statement) :
    (Unanswerable r q ∧ ∃ fault, ((run .context q).run s).1 = .error fault) ∨
      ¬ Unanswerable r q ∧ ∃ found, Answered s r q found := by
  obtain ⟨f, hshows, hfollows⟩ := h
  by_cases hkeys : ∀ key ∈ q.contextKeys, isName key = true
  · have hnames : ∀ key ∈ q.expression.keys, isName key = true :=
      fun key hkey => hkeys key (mem_sortNames.2 (List.mem_append_left _ hkey))
    obtain ⟨out, hevaluate, htells⟩ :=
      takes_evaluate (t := t) hfollows hdistinct q.expression hnames
    cases out with
    | error fault =>
        have hrun : Takes (Shows t .context) (Query.run .context q) f (.error fault) f :=
          Takes.bind_error hevaluate
        exact .inl ⟨.inr htells, fault, (hrun s hshows).1⟩
    | ok hits =>
        obtain ⟨hanswered, hhits⟩ := htells
        refine .inr ⟨fun hnone => hnone.elim (absurd hkeys) hanswered, sorted f r q hits,
          nodup_sorted hfollows hhits, fun _ => mem_sorted_iff hfollows hhits,
          fun huniform => answers_sorted hfollows huniform hhits, fun limit offset => ?_⟩
        exact (takes_run_sorted hfollows hdistinct hkeys hevaluate hhits limit offset s hshows).1
  · obtain ⟨fault, hrun⟩ := takes_run_invalid (t := t) hfollows hdistinct hkeys
    exact .inl ⟨.inl hkeys, fault, (hrun s hshows).1⟩

/-- Two stores that stand for references that say the same answer a statement with the same pages,
or neither has an answer. -/
theorem Answered.perm {s s' : Store} {r r' : Reference} {q : Statement} {found found' : List Match}
    (h : Answered s r q found) (h' : Answered s' r' q found') (hsame : r.Same r') :
    (found.map (·.shasum)).Perm (found'.map (·.shasum)) := by
  refine (List.perm_ext_iff_of_nodup h.nodup h'.nodup).2 fun shasum => ?_
  rw [h.mem_iff, h'.mem_iff]
  exact satisfies_congr hsame q.expression

/-- A query with a text is answered as its statement is. -/
theorem run_query {e : Engine} {text : String} {q : Statement}
    (h : (e.queries.statement text).1 = .ok q) :
    ((Engine.query text).run e).1 = ((run .context q).run e.store).1 := by
  have hstatement : ((Engine.statement text).run e).1 = .ok q := by
    show (e.queries.statement text).1.mapError Failure.syntaxError = .ok q
    rw [h]
    rfl
  rw [Engine.query, Action.run_bind_of_ok hstatement]
  rfl

/-! ## Pages in another order -/

/-- A store to which pages were added one after the other. -/
def indexed (s : Store) (pages : List (Stub × Page)) : Store := (serve s (additions pages)).2

/-- The attribute orders pages: none has two values of it, and all values are of one type. -/
structure Orders (key : String) (pages : List (Stub × Page)) : Prop where
  single : ∀ entry ∈ pages, ∀ v w, (key, v) ∈ Attributes.postings entry.2.context →
    (key, w) ∈ Attributes.postings entry.2.context → v = w
  uniform : ∀ entry ∈ pages, ∀ other ∈ pages, ∀ v w,
    (key, v) ∈ Attributes.postings entry.2.context →
    (key, w) ∈ Attributes.postings other.2.context → v.typeName = w.typeName

/-- Integers and floats are not mixed among values of one type. -/
theorem unmixed_of_typeName {v w : Value} (h : v.typeName = w.typeName) : Unmixed v w := by
  cases v <;> cases w <;> first | trivial | simp [Value.typeName] at h

namespace Orders

variable {pages : List (Stub × Page)} {q : Statement}

/-- What is posted of a page are values of its own. -/
theorem exists_of_posted {key shasum : String} {v : Value}
    (hnodup : (pages.map (·.1.shasum)).Nodup)
    (h : (refer {} (additions pages)).2.Posted (key, v) shasum) :
    ∃ entry ∈ pages, entry.1.shasum = shasum ∧
      (key, v) ∈ Attributes.postings entry.2.context := by
  obtain ⟨entry, hentry, hshasum, hv⟩ := (Index.posted_additions hnodup).1 h
  exact ⟨entry, hentry, hshasum, (List.takeWhile_sublist _).subset hv⟩

/-- The reference has one value of the attribute for a page. -/
theorem single_posted (h : Orders q.orderKey pages) (hnodup : (pages.map (·.1.shasum)).Nodup)
    (shasum : String) (v w : Value)
    (hv : (refer {} (additions pages)).2.Posted (q.orderKey, v) shasum)
    (hw : (refer {} (additions pages)).2.Posted (q.orderKey, w) shasum) : v = w := by
  obtain ⟨entry, hentry, hshasum, hcarried⟩ := exists_of_posted hnodup hv
  obtain ⟨other, hother, hshasum', hcarried'⟩ := exists_of_posted hnodup hw
  obtain rfl : other = entry :=
    List.inj_on_of_nodup_map hnodup hother hentry (hshasum'.trans hshasum.symm)
  exact h.single other hother v w hcarried hcarried'

/-- The values that order the pages of a statement are of one type. -/
theorem uniform_posted (h : Orders q.orderKey pages) (hnodup : (pages.map (·.1.shasum)).Nodup) :
    Uniform (refer {} (additions pages)).2 q := by
  intro a b _ _ v hv w hw
  obtain ⟨entry, hentry, _, hv⟩ :=
    exists_of_posted hnodup (mem_carried_iff.1 (List.mem_of_mem_head? hv))
  obtain ⟨other, hother, _, hw⟩ :=
    exists_of_posted hnodup (mem_carried_iff.1 (List.mem_of_mem_head? hw))
  exact unmixed_of_typeName (h.uniform entry hentry other hother v w hv hw)

/-- Pages are ordered in whatever order they come. -/
theorem perm {key : String} {pages' : List (Stub × Page)} (h : Orders key pages)
    (hperm : pages.Perm pages') : Orders key pages' where
  single entry hentry := h.single entry (hperm.mem_iff.2 hentry)
  uniform entry hentry other hother :=
    h.uniform entry (hperm.mem_iff.2 hentry) other (hperm.mem_iff.2 hother)

end Orders

/-- In whatever order pages are added to an empty store, it stands for the reference of that
order. -/
theorem stands_indexed {pages pages' : List (Stub × Page)} (hperm : pages.Perm pages')
    (hnodup : (pages.map (·.1.shasum)).Nodup) {s : Store} (hs : s.Holds ∅)
    (hdistinct : Distinct (Used (additions pages)))
    (hfits : (refer {} (additions pages)).2.Fits) :
    Index.Stands (Used (additions pages)) (fun _ _ => none) (indexed s pages')
      (refer {} (additions pages')).2 := by
  refine ((Index.stands_empty hs).serve hdistinct _ ?_ (fits_of_perm hnodup hperm hfits)).2
  intro op hop pair hpair
  obtain ⟨p, hp, rfl⟩ := List.mem_map.1 hop
  exact ⟨_, List.mem_map_of_mem (hperm.mem_iff.2 hp), pair, hpair, rfl⟩

/-- Whatever the order in which pages were added to an empty index, a statement that does not
compare attributes with each other is refused, or it finds the same pages. If the order key tells
how to order them, a query answers with the same pages in the same order, within any window. -/
theorem run_reordered {pages pages' : List (Stub × Page)} (hperm : pages.Perm pages')
    (hnodup : (pages.map (·.1.shasum)).Nodup) {s s' : Store} (hs : s.Holds ∅) (hs' : s'.Holds ∅)
    (hdistinct : Distinct (Used (additions pages)))
    (hfits : (refer {} (additions pages)).2.Fits) (q : Statement)
    (hplain : q.expression.hasReference = false) :
    (Unanswerable (refer {} (additions pages)).2 q ∧
      (∃ fault, ((run .context q).run (indexed s pages)).1 = .error fault) ∧
      ∃ fault, ((run .context q).run (indexed s' pages')).1 = .error fault) ∨
    ∃ found found' : List Match, (found.map (·.shasum)).Perm (found'.map (·.shasum)) ∧
      (∀ limit offset,
        ((run .context { q with limit, offset }).run (indexed s pages)).1 = .ok
          ⟨window found ((offset.map (·.toNat)).getD 0) (limit.map (·.toNat)), found.length⟩ ∧
        ((run .context { q with limit, offset }).run (indexed s' pages')).1 = .ok
          ⟨window found' ((offset.map (·.toNat)).getD 0) (limit.map (·.toNat)), found.length⟩) ∧
      (Orders q.orderKey pages → found.map (·.shasum) = found'.map (·.shasum) ∧
        ∀ (e e' : Engine) (text : String), e.store = indexed s pages →
          e'.store = indexed s' pages' → (e.queries.statement text).1 = .ok q →
          (e'.queries.statement text).1 = .ok q →
          ∃ result result', ((Engine.query text).run e).1 = .ok result ∧
            ((Engine.query text).run e').1 = .ok result' ∧
            result.matched.map (·.shasum) = result'.matched.map (·.shasum)) := by
  have hsame := same_of_perm hnodup hperm
  have hnone : Unanswerable (refer {} (additions pages)).2 q ↔
      Unanswerable (refer {} (additions pages')).2 q :=
    or_congr Iff.rfl (refused_congr hsame hplain)
  rcases run_cases (stands_indexed (.refl _) hnodup hs hdistinct hfits) hdistinct q with
    ⟨hrefused, hfault⟩ | ⟨hanswered, found, hfound⟩
  · rcases run_cases (stands_indexed hperm hnodup hs' hdistinct hfits) hdistinct q with
      ⟨_, hfault'⟩ | ⟨hanswered', _⟩
    · exact .inl ⟨hrefused, hfault, hfault'⟩
    · exact absurd (hnone.1 hrefused) hanswered'
  · rcases run_cases (stands_indexed hperm hnodup hs' hdistinct hfits) hdistinct q with
      ⟨hrefused', _⟩ | ⟨_, found', hfound'⟩
    · exact absurd (hnone.2 hrefused') hanswered
    have hshasums := hfound.perm hfound' hsame
    have hlength : found'.length = found.length := by
      simpa using hshasums.length_eq.symm
    refine .inr ⟨found, found', hshasums, fun limit offset => ⟨hfound.run limit offset, ?_⟩,
      fun horders => ?_⟩
    · rw [hfound'.run, hlength]
    · have huniform := horders.uniform_posted hnodup
      have huniform' :=
        (horders.perm hperm).uniform_posted ((hperm.map (·.1.shasum)).nodup_iff.1 hnodup)
      have heq : found.map (·.shasum) = found'.map (·.shasum) :=
        (hfound.answers huniform).shasums_eq (hfound'.answers huniform') hsame huniform
          (horders.single_posted hnodup)
      refine ⟨heq, fun e e' text hstore hstore' hread hread' => ?_⟩
      have hquery := run_query hread
      have hquery' := run_query hread'
      rw [hstore, hfound.run q.limit q.offset] at hquery
      rw [hstore', hfound'.run q.limit q.offset] at hquery'
      refine ⟨_, _, hquery, hquery', ?_⟩
      rw [map_window, heq, map_window]

/-- Two pages with a tag that are ordered by their ranks. -/
theorem run_reordered_ranked :
    let stub (shasum : String) : Stub :=
      { shasum, source := "a.md", mount := "/", language := "en", fallback := "en" }
    let page (rank : Int64) : Page :=
      { shasum := "", source := "a.md", url := "/a", title := "", description := "",
        language := "en", format := "md", sectionName := "", permalink := none, redirects := [],
        translates := none, created := ⟨0, 0, 0⟩, updated := ⟨0, 0, 0⟩, content := "",
        frontmatter := ∅, context := NameMap.ofList [("rank", .int rank), ("tags", .text "x")] }
    let a := (stub "p2", page 2)
    let b := (stub "p10", page 1)
    let s : Store := .buffered (.make (.ofBackend .sqlite false) 2 3)
    let s' : Store := .plain (.ofBackend .memory false)
    let q : Statement :=
      { expression := .operation "tags" .eq (.literal "x"), orderBy := some "rank" }
    ∃ result result', ((run .context q).run (indexed s [a, b])).1 = .ok result ∧
      ((run .context q).run (indexed s' [b, a])).1 = .ok result' ∧
      result.matched.map (·.shasum) = result'.matched.map (·.shasum) := by
  intro stub page a b s s' q
  have hvalues : ∀ op ∈ additions [a, b], ∀ p ∈ op.pairs,
      p.2 ∈ [Value.int 1, .int 2, .text "x"] := by decide
  have hstored : ∀ v ∈ [Value.int 1, .int 2, .text "x"], v.Storable := by
    simp only [List.forall_mem_cons, Value.Storable]
    exact ⟨trivial, trivial, by decide, List.forall_mem_nil _⟩
  have hdistinct : Distinct (Used (additions [a, b])) :=
    (Index.distinct_of_nodup hstored (by decide +kernel)).used hvalues
  have hfits : (refer {} (additions [a, b])).2.Fits :=
    Index.fits_of_few (additions [a, b]) (by decide) (by decide) _ (List.prefix_refl _)
  have hsingle : ∀ entry ∈ [a, b], ∀ p ∈ Attributes.postings entry.2.context,
      ∀ p' ∈ Attributes.postings entry.2.context, p.1 = "rank" → p'.1 = "rank" → p.2 = p'.2 := by
    decide
  have huniform : ∀ entry ∈ [a, b], ∀ other ∈ [a, b],
      ∀ p ∈ Attributes.postings entry.2.context, ∀ p' ∈ Attributes.postings other.2.context,
        p.1 = "rank" → p'.1 = "rank" → p.2.typeName = p'.2.typeName := by decide
  have horders : Orders q.orderKey [a, b] :=
    ⟨fun entry hentry v w hv hw => hsingle entry hentry _ hv _ hw rfl rfl,
      fun entry hentry other hother v w hv hw =>
        huniform entry hentry other hother _ hv _ hw rfl rfl⟩
  rcases run_reordered (List.Perm.swap b a []) (by decide) (Store.holds_buffered .sqlite 2 3)
    (Store.holds_plain .memory) hdistinct hfits q rfl with
    ⟨hkeys | ⟨v, shasum, ⟨row, hrow, hpair, _⟩, hread⟩, _⟩ | ⟨found, found', _, hrun, hordered⟩
  · exact absurd (by decide) hkeys
  · -- All tags are texts, as which every literal can be read.
    have htexts : ∀ row ∈ (refer {} (additions [a, b])).2.rows, row.name = "tags" →
        row.value = .text "x" := by decide
    obtain rfl : v = .text "x" :=
      (congrArg Prod.snd hpair).symm.trans (htexts row hrow (congrArg Prod.fst hpair))
    exact absurd rfl (hread (.text "x"))
  · obtain ⟨hfirst, hsecond⟩ := hrun none none
    exact ⟨_, _, hfirst, hsecond, (hordered horders).1⟩

end SiteIndex.Query
