import Mathlib.Data.List.Perm.Subperm
import SiteIndex.Proofs.Query.ContextKeys
import SiteIndex.Proofs.Query.Evaluation
import SiteIndex.Proofs.Value.Order
import SiteIndex.Proofs.Window

/-!
# The answer to a statement

A statement is answered with the pages that satisfy its expression, each once with the first values
that it carries, in one order: by the value of the order key, the pages without one last in either
direction, and by the natural order of the shasums where that does not tell them apart (`Precedes`).
The two passes of sorting come to this order as long as integers and floats are not mixed under the
order key (`pairwise_sortMatches`). A window cuts the answer that there is without one
(`run_ranks`).
-/

namespace SiteIndex.Query

open Posting
open Index (Reference Follows Shown Distinct shasumOf)
open Std
open Store (Namespace)
open Store.Key (isName)
open SiteIndex.Action (Takes)
open Text.Natural (compareText)
open Value (Unmixed)

/-! ## The order of matches -/

/-- The order of two values in a direction. -/
def Direction.orient : Direction → Ordering → Ordering
  | .ascending, order => order
  | .descending, order => order.swap

/-- One match stands before another: its value of the order key does, or the other has none, or
their values are level and its shasum stands before the other's. -/
def Precedes (key : String) (direction : Direction) (a b : Match) : Prop :=
  match a.context.lookup key, b.context.lookup key with
  | some x, some y => direction.orient (x.compareTo y) = .lt ∨
      (x.compareTo y = .eq ∧ compareText a.shasum b.shasum = .lt)
  | some _, none => True
  | none, some _ => False
  | none, none => compareText a.shasum b.shasum = .lt

/-- The order of two optional places; a missing one comes last in either direction. -/
def comparePlaceAt (direction : Direction) :
    Option (Nat × List Int) → Option (Nat × List Int) → Ordering
  | some x, some y => direction.orient (Value.comparePlace x y)
  | some _, none => .lt
  | none, some _ => .gt
  | none, none => .eq

instance (direction : Direction) : TransCmp (comparePlaceAt direction) where
  eq_swap {x y} := by
    cases x with
    | none => cases y <;> rfl
    | some x =>
        cases y with
        | none => rfl
        | some y =>
            have hswap := @OrientedCmp.eq_swap _ Value.comparePlace _ x y
            cases direction with
            | ascending => exact hswap
            | descending => exact congrArg Ordering.swap hswap
  isLE_trans {x y z} hxy hyz := by
    cases z with
    | none => cases x <;> rfl
    | some z =>
        cases y with
        | none => cases hyz
        | some y =>
            cases x with
            | none => cases hxy
            | some x =>
                cases direction with
                | ascending => exact @TransCmp.isLE_trans _ Value.comparePlace _ _ _ _ hxy hyz
                | descending =>
                    have hback : ∀ {p q}, (comparePlaceAt .descending (some p) (some q)).isLE =
                        (Value.comparePlace q p).isLE := by
                      intro p q
                      show (Value.comparePlace p q).swap.isLE = _
                      rw [← @OrientedCmp.eq_swap _ Value.comparePlace]
                    rw [hback] at hxy hyz ⊢
                    exact @TransCmp.isLE_trans _ Value.comparePlace _ _ _ _ hyz hxy

/-- Values that are not an integer and a float stand in a direction as their places do. -/
theorem compareAt_eq_place {direction : Direction} {x y : Option Value}
    (h : ∀ v ∈ x, ∀ w ∈ y, Unmixed v w) :
    compareAt direction x y = comparePlaceAt direction (x.map Value.place) (y.map Value.place) := by
  cases x with
  | none => cases y <;> rfl
  | some x =>
      cases y with
      | none => rfl
      | some y =>
          have hunmixed : Unmixed x y := h x rfl y rfl
          cases direction with
          | ascending => exact Value.compareTo_eq_place hunmixed
          | descending =>
              show y.compareTo x = (Value.comparePlace x.place y.place).swap
              rw [Value.compareTo_swap hunmixed, Value.compareTo_eq_place hunmixed]

/-- Matches that come one before the other by their places and then by their shasums precede each
other. -/
theorem precedes_of_place {key : String} {direction : Direction} {a b : Match}
    (hunmixed : ∀ v ∈ a.context.lookup key, ∀ w ∈ b.context.lookup key, Unmixed v w)
    (h : compareAt direction (a.context.lookup key) (b.context.lookup key) = .lt ∨
      (compareAt direction (a.context.lookup key) (b.context.lookup key) = .eq ∧
        compareText a.shasum b.shasum = .lt)) : Precedes key direction a b := by
  unfold Precedes
  cases hx : a.context.lookup key with
  | none =>
      rw [hx] at h
      cases hy : b.context.lookup key with
      | none =>
          rw [hy] at h
          exact h.elim nofun And.right
      | some y =>
          rw [hy] at h
          exact h.elim nofun (absurd ·.1 nofun)
  | some x =>
      cases hy : b.context.lookup key with
      | none => trivial
      | some y =>
          have hxy : Unmixed x y := hunmixed x hx y hy
          rw [hx, hy] at h
          cases direction with
          | ascending => exact h
          | descending =>
              have hswap : y.compareTo x = (x.compareTo y).swap := Value.compareTo_swap hxy
              rcases h with h | ⟨h, hshasum⟩
              · exact .inl (hswap.symm.trans h)
              · refine .inr ⟨?_, hshasum⟩
                rw [← Ordering.swap_eq_eq, ← hswap]
                exact h

/-- Sorting puts matches with different shasums in their order. -/
theorem pairwise_sortMatches {key : String} {direction : Direction} {found : List Match}
    (hnodup : (found.map (·.shasum)).Nodup)
    (hunmixed : ∀ a ∈ found, ∀ b ∈ found, ∀ v ∈ a.context.lookup key,
      ∀ w ∈ b.context.lookup key, Unmixed v w) :
    (sortMatches key direction found).Pairwise (Precedes key direction) := by
  let cmp (a b : Match) : Ordering := comparePlaceAt direction
    ((a.context.lookup key).map Value.place) ((b.context.lookup key).map Value.place)
  have : TransCmp cmp := Text.Natural.transCmp_on (comparePlaceAt direction)
    fun m : Match => (m.context.lookup key).map Value.place
  have hperm : (Text.Natural.sortBy (fun m : Match => m.shasum) found).Perm found :=
    (Text.Natural.sortBy_spec _ _).1
  have hmem : ∀ m, m ∈ Text.Natural.sortBy (fun m : Match => m.shasum) found → m ∈ found :=
    fun m hm => hperm.mem_iff.1 hm
  -- The first pass tells all matches apart.
  have hfirst : (Text.Natural.sortBy (fun m : Match => m.shasum) found).Pairwise
      fun a b => compareText a.shasum b.shasum = .lt := Text.Natural.pairwise_sortBy hnodup
  have hsecond := pairwise_mergeSort_stable cmp
    (hperm.nodup_iff.2 (List.Nodup.of_map _ hnodup)) hfirst
  have hplace : sortMatches key direction found
      = (Text.Natural.sortBy (fun m : Match => m.shasum) found).mergeSort
        fun a b => (cmp a b).isLE := by
    refine mergeSort_congr fun a ha b hb => ?_
    rw [compareAt_eq_place (hunmixed a (hmem a ha) b (hmem b hb))]
  rw [hplace]
  refine hsecond.imp_of_mem fun {a b} ha hb h => ?_
  have hin : ∀ m, m ∈ (Text.Natural.sortBy (fun m : Match => m.shasum) found).mergeSort
      (fun a b => (cmp a b).isLE) → m ∈ found :=
    fun m hm => hmem m ((List.mergeSort_perm _ _).mem_iff.1 hm)
  have hab := hunmixed a (hin a ha) b (hin b hb)
  refine precedes_of_place hab ?_
  rw [compareAt_eq_place hab]
  exact h

/-! ## Snapshots -/

/-- The first value that a page carries under each of the attributes that it has. -/
def firsts (r : Reference) (keys : List String) (shasum : String) : Snapshot :=
  keys.filterMap fun key => (carried r key shasum).head?.map fun value => (key, value)

/-- A value among the first ones of a page is the first one under its attribute. -/
theorem mem_firsts {r : Reference} {keys : List String} {shasum : String} {p : String × Value}
    (h : p ∈ firsts r keys shasum) : p.1 ∈ keys ∧ (carried r p.1 shasum).head? = some p.2 := by
  obtain ⟨key, hkey, hp⟩ := List.mem_filterMap.1 h
  obtain ⟨value, hvalue, rfl⟩ := Option.map_eq_some_iff.1 hp
  exact ⟨hkey, hvalue⟩

/-- The value that is looked up in a snapshot is the first one under its attribute. -/
theorem head?_of_lookup_firsts {r : Reference} {keys : List String} {key shasum : String}
    {value : Value} (h : (firsts r keys shasum).lookup key = some value) :
    (carried r key shasum).head? = some value := by
  obtain ⟨front, back, hsplit, _⟩ := List.lookup_eq_some_iff.1 h
  have hmem : (key, value) ∈ firsts r keys shasum := by
    rw [hsplit]
    exact List.mem_append_right _ (List.mem_cons_self ..)
  exact (mem_firsts hmem).2

/-- What is looked up in a snapshot is the first value under the attribute. -/
theorem lookup_firsts {r : Reference} {keys : List String} {key : String} (hkey : key ∈ keys)
    (shasum : String) : (firsts r keys shasum).lookup key = (carried r key shasum).head? := by
  cases hlookup : (firsts r keys shasum).lookup key with
  | some v => exact (head?_of_lookup_firsts hlookup).symm
  | none =>
      cases hfirst : (carried r key shasum).head? with
      | none => rfl
      | some v =>
          have hmem : (key, v) ∈ firsts r keys shasum :=
            List.mem_filterMap.2 ⟨key, hkey, by rw [hfirst]; rfl⟩
          have hne := List.lookup_eq_none_iff.1 hlookup _ hmem
          simp at hne

section Tables

variable {used : Value → Prop} {t : Namespace → Fields} {f : Fields} {r : Reference}
  {shasum : String} {index : UInt32}

/-- The first entry that lists a stub has the first value of its page. -/
theorem map_find?_eq_head?_carried (hcoherent : Coherent f) {name : Name} {entries : List Entry}
    (hshown : Shown f r name entries) (hindex : f (.stubIndex shasum) = some index) :
    ((entries.map Entry.postings).find? (·.postings.stubs.contains index)).map (·.value)
      = (carried r name.1 shasum).head? := by
  rw [← valuesOf_eq_carried hcoherent hshown hindex, valuesOf, List.head?_map, List.head?_filter]

/-- The columns that are read are those of the reference. -/
theorem takes_columns (h : Follows used f r) (hdistinct : Distinct used) {keys : List String}
    (hkeys : ∀ key ∈ keys, isName key = true) :
    ∃ columns : List (String × List ValuePostings),
      Takes (Shows t .context)
          (keys.mapM fun key => do return (key, ← Tables.values .context key)) f (.ok columns) f ∧
        ∀ shasum index, f (.stubIndex shasum) = some index →
          snapshot columns index = firsts r keys shasum := by
  obtain ⟨read, hread⟩ := exists_takes_entries (t := t) h hdistinct
  refine ⟨keys.map fun key => (key, read key), ?_, fun shasum index hindex => ?_⟩
  · exact Takes.mapM fun key hkey => Takes.bind (hread key (hkeys key hkey)).1 (Takes.pure _)
  · rw [snapshot, firsts, List.filterMap_map]
    refine List.filterMap_congr fun key hkey => ?_
    obtain ⟨entries, hshown, hentries⟩ := (hread key (hkeys key hkey)).2
    rw [← map_find?_eq_head?_carried h.coherent hshown hindex, ← hentries, Option.map_map]
    rfl

/-- The columns are not read if some attribute is no name. -/
theorem takes_columns_invalid (h : Follows used f r) (hdistinct : Distinct used)
    {keys : List String} (hkeys : ¬ ∀ key ∈ keys, isName key = true) :
    ∃ fault, Takes (Shows t .context)
      (keys.mapM fun key => do return (key, ← Tables.values .context key)) f (.error fault) f := by
  obtain ⟨read, hread⟩ := exists_takes_entries (t := t) h hdistinct
  have hbad : ∃ key ∈ keys, ¬ isName key = true := by simpa using hkeys
  let column (key : String) : Action Store (String × List ValuePostings) := do
    return (key, ← Tables.values .context key)
  have hgood : ∀ key ∈ keys, isName key = true →
      Takes (Shows t .context) (column key) f (.ok (key, read key)) f :=
    fun key _ hkey => Takes.bind (hread key hkey).1 (Takes.pure _)
  have hfault : ∀ key ∈ keys, ¬ isName key = true →
      Takes (Shows t .context) (column key) f (.error (.invalidName key)) f :=
    fun key _ hkey => Takes.bind_error (takes_values_invalid hkey)
  obtain ⟨key, _, _, hcolumns⟩ := Takes.mapM_error hgood hfault hbad
  exact ⟨_, hcolumns⟩

/-- The answer to a statement without a window: the pages that satisfy its expression, each once
with the first values that it carries, in order. -/
structure Answers (r : Reference) (q : Statement) (ranked : List Match) : Prop where
  nodup : (ranked.map (·.shasum)).Nodup
  mem_iff : ∀ shasum, shasum ∈ ranked.map (·.shasum) ↔ Satisfies r shasum q.expression
  context : ∀ m ∈ ranked, m.context = firsts r q.contextKeys m.shasum
  ordered : ranked.Pairwise (Precedes q.orderKey q.direction)

/-- Integers and floats are not mixed among the values that order the pages of a statement. -/
def Uniform (r : Reference) (q : Statement) : Prop :=
  ∀ a b, Satisfies r a q.expression → Satisfies r b q.expression →
    ∀ v ∈ (carried r q.orderKey a).head?, ∀ w ∈ (carried r q.orderKey b).head?, Unmixed v w

/-- The match of the page with a number. -/
def pageOf (f : Fields) (r : Reference) (keys : List String) (index : UInt32) : Match :=
  { index, shasum := shasumOf f index, context := firsts r keys (shasumOf f index) }

/-- The matches of a statement that are found by their numbers, in order. -/
def sorted (f : Fields) (r : Reference) (q : Statement) (hits : StubSet) : List Match :=
  sortMatches q.orderKey q.direction (hits.toList.map (pageOf f r q.contextKeys))

/-- Sorting leaves the matches as they are. -/
theorem sorted_perm (f : Fields) (r : Reference) (q : Statement) (hits : StubSet) :
    (sorted f r q hits).Perm (hits.toList.map (pageOf f r q.contextKeys)) :=
  (List.mergeSort_perm _ _).trans (Text.Natural.sortBy_spec _ _).1

/-- The numbers of the sorted matches are those that were found. -/
theorem map_index_sorted_perm (f : Fields) (r : Reference) (q : Statement) (hits : StubSet) :
    ((sorted f r q hits).map (·.index)).Perm hits.toList := by
  have hmap := (sorted_perm f r q hits).map (·.index)
  rw [List.map_map] at hmap
  exact hmap.trans (List.Perm.of_eq (List.map_id _))

/-- The shasums of the sorted matches are those of the numbers that were found. -/
theorem map_shasum_sorted_perm (f : Fields) (r : Reference) (q : Statement) (hits : StubSet) :
    ((sorted f r q hits).map (·.shasum)).Perm (hits.toList.map (shasumOf f)) := by
  have hmap := (sorted_perm f r q hits).map (·.shasum)
  rwa [List.map_map] at hmap

/-- A sorted match is the page of a number that was found. -/
theorem exists_pageOf {q : Statement} {hits : StubSet} {m : Match} (hm : m ∈ sorted f r q hits) :
    ∃ index ∈ hits, pageOf f r q.contextKeys index = m :=
  List.mem_map.1 ((sorted_perm f r q hits).mem_iff.1 hm)

/-- A statement whose expression finds the numbers of some pages is answered with these pages as
they are sorted, within any window. -/
theorem takes_run_sorted (h : Follows used f r) (hdistinct : Distinct used) {q : Statement}
    (hkeys : ∀ key ∈ q.contextKeys, isName key = true) {P : String → Prop} {hits : StubSet}
    (hevaluate : Takes (Shows t .context) (evaluate .context q.expression) f (.ok hits) f)
    (hhits : ∀ index, index ∈ hits ↔ Numbers f P index) (limit offset : Option UInt64) :
    Takes (Shows t .context) (run .context { q with limit, offset }) f
      (.ok ⟨window (sorted f r q hits) ((offset.map (·.toNat)).getD 0) (limit.map (·.toNat)),
        (sorted f r q hits).length⟩) f := by
  obtain ⟨columns, hcolumns, hsnapshot⟩ := takes_columns (t := t) h hdistinct hkeys
  have hstub := fun index hindex => stub_of_numbers h ((hhits index).1 hindex)
  refine Takes.bind hevaluate (Takes.bind hcolumns
    (Takes.bind (takes_shasums fun index hindex => (hstub index hindex).2.1) ?_))
  -- What is sorted are the pages of the reference, since their snapshots are its first values.
  have hfound : ((hits.toList.zip (hits.toList.map (shasumOf f))).map fun hit =>
      { index := hit.1, shasum := hit.2, context := snapshot columns hit.1 : Match })
        = hits.toList.map (pageOf f r q.contextKeys) := by
    rw [← List.map_prod_left_eq_zip, List.map_map]
    refine List.map_congr_left fun index hindex => ?_
    exact congrArg (Match.mk _ _) (hsnapshot _ index (hstub index hindex).1)
  rw [hfound]
  exact Takes.pure _

/-- The sorted matches are different pages. -/
theorem nodup_sorted (h : Follows used f r) {P : String → Prop} {q : Statement} {hits : StubSet}
    (hhits : ∀ index, index ∈ hits ↔ Numbers f P index) :
    ((sorted f r q hits).map (·.shasum)).Nodup :=
  (map_shasum_sorted_perm f r q hits).nodup_iff.2 (nodup_shasums h hhits)

/-- The sorted matches are the pages that satisfy the expression. -/
theorem mem_sorted_iff (h : Follows used f r) {q : Statement} {hits : StubSet}
    (hhits : ∀ index, index ∈ hits ↔ Numbers f (fun s => Satisfies r s q.expression) index) :
    shasum ∈ (sorted f r q hits).map (·.shasum) ↔ Satisfies r shasum q.expression := by
  rw [(map_shasum_sorted_perm f r q hits).mem_iff, mem_shasums_iff h hhits]
  intro s hs
  obtain ⟨p, hposted⟩ := exists_posted_of_satisfies hs
  exact h.live_of_posted hposted

/-- The sorted matches are the answer to the statement. -/
theorem answers_sorted (h : Follows used f r) {q : Statement} (huniform : Uniform r q)
    {hits : StubSet}
    (hhits : ∀ index, index ∈ hits ↔ Numbers f (fun s => Satisfies r s q.expression) index) :
    Answers r q (sorted f r q hits) where
  nodup := nodup_sorted h hhits
  mem_iff _ := mem_sorted_iff h hhits
  context m hm := by
    obtain ⟨index, _, rfl⟩ := exists_pageOf hm
    rfl
  ordered := by
    refine pairwise_sortMatches ?_ fun a ha b hb v hv w hw => ?_
    · rw [List.map_map]
      exact nodup_shasums h hhits
    · obtain ⟨i, hi, rfl⟩ := List.mem_map.1 ha
      obtain ⟨j, hj, rfl⟩ := List.mem_map.1 hb
      exact huniform _ _ (stub_of_numbers h ((hhits i).1 hi)).2.2
        (stub_of_numbers h ((hhits j).1 hj)).2.2 v (head?_of_lookup_firsts hv) w
        (head?_of_lookup_firsts hw)

/-- A statement whose expression finds the pages that satisfy it is answered with them in their
order, within any window. -/
theorem takes_run (h : Follows used f r) (hdistinct : Distinct used) {q : Statement}
    (hkeys : ∀ key ∈ q.contextKeys, isName key = true) (huniform : Uniform r q) {hits : StubSet}
    (hevaluate : Takes (Shows t .context) (evaluate .context q.expression) f (.ok hits) f)
    (hhits : ∀ index, index ∈ hits ↔ Numbers f (fun s => Satisfies r s q.expression) index) :
    ∃ ranked, Answers r q ranked ∧ (ranked.map (·.index)).Perm hits.toList ∧
      (∀ m ∈ ranked, f (.stubShasum m.index) = some m.shasum) ∧
      ∀ limit offset, Takes (Shows t .context) (run .context { q with limit, offset }) f
        (.ok ⟨window ranked ((offset.map (·.toNat)).getD 0) (limit.map (·.toNat)),
          ranked.length⟩) f := by
  refine ⟨sorted f r q hits, answers_sorted h huniform hhits, map_index_sorted_perm f r q hits,
    fun m hm => ?_, takes_run_sorted h hdistinct hkeys hevaluate hhits⟩
  obtain ⟨index, hindex, rfl⟩ := exists_pageOf hm
  exact (stub_of_numbers h ((hhits index).1 hindex)).2.1

/-- A statement that reads an attribute that is no name is not answered. -/
theorem takes_run_invalid (h : Follows used f r) (hdistinct : Distinct used) {q : Statement}
    (hkeys : ¬ ∀ key ∈ q.contextKeys, isName key = true) :
    ∃ fault, Takes (Shows t .context) (run .context q) f (.error fault) f := by
  by_cases hnames : ∀ key ∈ q.expression.keys, isName key = true
  · obtain ⟨out, hevaluate, _⟩ := takes_evaluate (t := t) h hdistinct q.expression hnames
    cases out with
    | error fault => exact ⟨fault, Takes.bind_error hevaluate⟩
    | ok hits =>
        obtain ⟨fault, hcolumns⟩ := takes_columns_invalid (t := t) h hdistinct hkeys
        exact ⟨fault, Takes.bind hevaluate (Takes.bind_error hcolumns)⟩
  · obtain ⟨fault, hfault⟩ := takes_evaluate_invalid (t := t) h hdistinct hnames
    exact ⟨fault, Takes.bind_error hfault⟩

end Tables

/-! ## Statements after changes -/

open Index (Change Used serve refer)

/-- The matches of a statement within another window; none if it is refused. -/
def matchedAt (s : Store) (q : Statement) (limit offset : Option UInt64) : List Match :=
  match ((run .context { q with limit, offset }).run s).1 with
  | .ok result => result.matched
  | .error _ => []

/-- Whatever changes led to the index, a statement whose expression finds some pages is answered
with these, each once and in order, as long as integers and floats are not mixed among the values
that order them. Every window is cut out of this one answer, so that windows of one size side by
side make it up. -/
theorem run_ranks {s : Store} (hs : s.Holds ∅) (ops : List Change)
    (hdistinct : Distinct (Used ops))
    (hfits : ∀ front, front <+: ops → (refer {} front).2.Fits) (q : Statement)
    (hkeys : ∀ key ∈ q.contextKeys, isName key = true) {hits : StubSet}
    (hevaluate : ((evaluate .context q.expression).run (serve s ops).2).1 = .ok hits)
    (huniform : Uniform (refer {} ops).2 q) :
    ∃ ranked, Answers (refer {} ops).2 q ranked ∧
      (ranked.map (·.index)).Perm hits.toList ∧
      (∀ m ∈ ranked, ((Tables.shasum .context m.index).run (serve s ops).2).1 = .ok m.shasum ∧
        ∀ p ∈ m.context, p.1 ∈ q.contextKeys) ∧
      (∀ limit offset, ∃ result,
        ((run .context { q with limit, offset }).run (serve s ops).2).1 = .ok result ∧
          result.total = hits.toList.length ∧
          result.matched = (ranked.drop ((offset.map (·.toNat)).getD 0)).take
            ((limit.map (·.toNat)).getD ranked.length)) ∧
      ∀ size : UInt64, 0 < size.toNat →
        ((List.range (ranked.length / size.toNat + 1)).flatMap fun k =>
          matchedAt (serve s ops).2 q (some size) (some (.ofNat (k * size.toNat)))) = ranked := by
  have hstart : Index.Stands (Used ops) (fun _ _ => none) s {} := Index.stands_empty hs
  have hused : ∀ op ∈ ops, ∀ p ∈ op.pairs, Used ops p.2 :=
    fun op hop p hp => ⟨op, hop, p, hp, rfl⟩
  obtain ⟨f, hshows, hfollows⟩ := (hstart.serve hdistinct ops hused hfits).2
  have hnames : ∀ key ∈ q.expression.keys, isName key = true := by
    intro key hkey
    exact hkeys key (mem_sortNames.2 (List.mem_append_left _ hkey))
  obtain ⟨out, htakes, htells⟩ :=
    takes_evaluate (t := fun _ _ => none) hfollows hdistinct q.expression hnames
  have hout : out = .ok hits := (htakes _ hshows).1.symm.trans hevaluate
  rw [hout] at htakes htells
  obtain ⟨ranked, hanswers, hperm, hstubs, hrun⟩ :=
    takes_run hfollows hdistinct hkeys huniform htakes htells.2
  have hlength : ranked.length = hits.toList.length := by
    rw [← hperm.length_eq, List.length_map]
  refine ⟨ranked, hanswers, hperm, fun m hm => ⟨?_, fun p hp => ?_⟩, fun limit offset => ?_,
    fun size hsize => ?_⟩
  · exact (takes_shasum (hstubs m hm) _ hshows).1
  · rw [hanswers.context m hm] at hp
    exact (mem_firsts hp).1
  · refine ⟨_, (hrun limit offset _ hshows).1, hlength, ?_⟩
    rw [window_eq]
  · have hsmall : ranked.length < UInt64.size :=
      hlength ▸ Nat.lt_of_le_of_lt (length_le_size hits.nodup) (by decide)
    have hcount : ranked.length ≤ (ranked.length / size.toNat + 1) * size.toNat := by
      rw [Nat.mul_comm]
      exact (Nat.lt_mul_div_succ _ hsize).le
    conv_rhs => rw [← flatMap_window _ ranked hcount]
    refine List.flatMap_congr fun k hk => ?_
    -- An offset is no more than the number of matches and so fits its width.
    have hoffset : k * size.toNat < UInt64.size := by
      have hk := Nat.mul_le_mul_right size.toNat (Nat.lt_succ_iff.1 (List.mem_range.1 hk))
      exact Nat.lt_of_le_of_lt (hk.trans (Nat.div_mul_le_self _ _)) hsmall
    rw [matchedAt, (hrun (some size) (some (.ofNat (k * size.toNat))) _ hshows).1]
    show window ranked (UInt64.ofNat (k * size.toNat)).toNat (some size.toNat) = _
    rw [UInt64.toNat_ofNat_of_lt' hoffset]

/-- Two pages that are level under the order key, one to a window. -/
theorem run_ranks_level :
    let stub (shasum : String) : Page.Stub :=
      { shasum, source := "a.md", mount := "/", language := "en", fallback := "en" }
    let page (rank : Int64) : Page :=
      { shasum := "", source := "a.md", url := "/a", title := "", description := "",
        language := "en", format := "md", sectionName := "", permalink := none, redirects := [],
        translates := none, created := ⟨0, 0, 0⟩, updated := ⟨0, 0, 0⟩, content := "",
        frontmatter := ∅, context := NameMap.ofList [("rank", .int rank)] }
    let ops : List Change := [.add (stub "p10") (page 1), .add (stub "p2") (page 1)]
    let s : Store := .buffered (.make (.ofBackend .sqlite false) 2 3)
    let q : Statement :=
      { expression := .operation "rank" .ne (.literal "3"), orderBy := some "rank",
        direction := .descending }
    ∃ ranked, Answers (refer {} ops).2 q ranked ∧ ranked.length = 2 ∧
      matchedAt (serve s ops).2 q (some 1) (some 0) ++ matchedAt (serve s ops).2 q (some 1) (some 1)
        = ranked := by
  intro stub page ops s q
  have hstored : ∀ v ∈ [Value.int 1], v.Storable := List.forall_mem_singleton.2 trivial
  have hdistinct : Distinct (Used ops) :=
    (Index.distinct_of_nodup hstored (List.nodup_singleton _)).used (by decide)
  have hrows : (refer {} ops).2.rows = [⟨"rank", .int 1, ["p10", "p2"]⟩] := by decide
  have hcarried : ∀ a, ∀ v ∈ (carried (refer {} ops).2 q.orderKey a).head?, v = .int 1 := by
    intro a v hv
    obtain ⟨row, hrow, hpair, _⟩ := mem_carried_iff.1 (List.mem_of_mem_head? hv)
    rw [hrows, List.mem_singleton] at hrow
    rw [hrow] at hpair
    exact (congrArg Prod.snd hpair).symm
  have huniform : Uniform (refer {} ops).2 q := by
    intro a b _ _ v hv w hw
    rw [hcarried a v hv, hcarried b w hw]
    trivial
  have hevaluate : (((evaluate .context q.expression).run (serve s ops).2).1.map (·.toList))
      = .ok [0, 1] := by decide +kernel
  cases hout : ((evaluate .context q.expression).run (serve s ops).2).1 with
  | error fault =>
      rw [hout] at hevaluate
      cases hevaluate
  | ok hits =>
      have hhits : hits.toList = [0, 1] := by
        rw [hout] at hevaluate
        exact Except.ok.inj hevaluate
      obtain ⟨ranked, hanswers, hperm, _, hrun, _⟩ := run_ranks (Store.holds_buffered .sqlite 2 3)
        ops hdistinct (Index.fits_of_few ops (by decide) (by decide)) q (by decide) hout huniform
      have hlength : ranked.length = 2 := by
        rw [← List.length_map, hperm.length_eq, hhits]
        rfl
      refine ⟨ranked, hanswers, hlength, ?_⟩
      obtain ⟨first, hfirst, _, htaken⟩ := hrun (some 1) (some 0)
      obtain ⟨second, hsecond, _, hrest⟩ := hrun (some 1) (some 1)
      rw [matchedAt, matchedAt, hfirst, hsecond]
      show first.matched ++ second.matched = ranked
      rw [htaken, hrest]
      show ranked.take 1 ++ (ranked.drop 1).take 1 = ranked
      rw [← List.take_add]
      exact List.take_of_length_le hlength.le

end SiteIndex.Query
