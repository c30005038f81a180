import SiteIndex.Proofs.Index.Runs
import SiteIndex.Proofs.Query.Meaning

/-!
# Evaluation finds what an expression means

`evaluate` reads the posting tables and works on numbers of stubs; `Satisfies` speaks of the
pages of a reference. Where the tables follow a reference, the numbers that are found are those
of the pages that satisfy the expression, and evaluation fails exactly when the expression is
refused (`takes_evaluate`). That holds after all changes of an index (`evaluate_runs`).
-/

namespace SiteIndex.Query

open Posting
open Index (Reference Follows Shown Distinct shasumOf rowOf)
open Store (Namespace)
open Store.Key (isName)
open SiteIndex.Action (Takes)

section Tables

variable {used : Value → Prop} {t : Namespace → Fields} {f : Fields} {r : Reference}
  {name other : Name} {entries others : List Entry} {value : Value} {shasum : String}
  {index : UInt32}

/-- Statements about the entries of an attribute and their stubs are statements about the pages
that carry its values. -/
theorem exists_entry_iff (hcoherent : Coherent f) (hshown : Shown f r name entries)
    {P : Value → UInt32 → Prop} :
    (∃ e ∈ entries.map Entry.postings, ∃ index ∈ e.postings.stubs, P e.value index) ↔
      ∃ value shasum index, f (.stubIndex shasum) = some index ∧
        r.Posted (name.1, value) shasum ∧ P value index := by
  constructor
  · rintro ⟨_, hx, index, hindex, hp⟩
    obtain ⟨e, he, rfl⟩ := List.mem_map.1 hx
    have hshasum := (hcoherent.stub_inverse _ index).2 (hshown.live e he index hindex)
    exact ⟨e.value, _, index, hshasum,
      (hshown.posted_iff hcoherent hshasum).2 ⟨e, he, rfl, hindex⟩, hp⟩
  · rintro ⟨value, shasum, index, hshasum, hposted, hp⟩
    obtain ⟨e, he, rfl, hindex⟩ := (hshown.posted_iff hcoherent hshasum).1 hposted
    exact ⟨e.postings, List.mem_map_of_mem he, index, hindex, hp⟩

/-- Statements about the values of the entries are statements about the values that pages
carry. -/
theorem exists_value_iff (h : Follows used f r) (hshown : Shown f r name entries)
    {P : Value → Prop} :
    (∃ e ∈ entries.map Entry.postings, P e.value) ↔
      ∃ value shasum, r.Posted (name.1, value) shasum ∧ P value := by
  have hiff := exists_entry_iff (P := fun value _ => P value) h.coherent hshown
  constructor
  · rintro ⟨_, hx, hp⟩
    obtain ⟨e, he, rfl⟩ := List.mem_map.1 hx
    have hstubs : e.stubs.toList ≠ [] := by
      intro hnil
      have hpostings := ((hshown.listing.mem_iff e).1 he).2
      exact h.coherent.postings_ne _ _ hpostings (StubSet.toList_eq_nil_iff.1 hnil)
    obtain ⟨index, hindex⟩ := List.exists_mem_of_ne_nil _ hstubs
    obtain ⟨value, shasum, _, _, hposted, hp⟩ := hiff.1 ⟨_, hx, index, hindex, hp⟩
    exact ⟨value, shasum, hposted, hp⟩
  · rintro ⟨value, shasum, hposted, hp⟩
    obtain ⟨index, hindex⟩ := Option.ne_none_iff_exists'.1
      ((h.live shasum).1 (h.live_of_posted hposted))
    obtain ⟨e, he, _, _, hp⟩ := hiff.2 ⟨value, shasum, index, hindex, hposted, hp⟩
    exact ⟨e, he, hp⟩

/-- An entry that lists a stub says that its page carries the value. -/
theorem exists_entry_of_index_iff (hcoherent : Coherent f) (hshown : Shown f r name entries)
    {P : Value → Prop} :
    (∃ e ∈ entries.map Entry.postings, index ∈ e.postings.stubs ∧ P e.value) ↔
      ∃ shasum, f (.stubIndex shasum) = some index ∧
        ∃ value, r.Posted (name.1, value) shasum ∧ P value := by
  have hiff := exists_entry_iff (P := fun value k => k = index ∧ P value) hcoherent hshown
  constructor
  · rintro ⟨e, he, hindex, hp⟩
    obtain ⟨value, shasum, k, hshasum, hposted, rfl, hp⟩ := hiff.1 ⟨e, he, index, hindex, rfl, hp⟩
    exact ⟨shasum, hshasum, value, hposted, hp⟩
  · rintro ⟨shasum, hshasum, value, hposted, hp⟩
    obtain ⟨e, he, k, hk, rfl, hp⟩ := hiff.2 ⟨value, shasum, index, hshasum, hposted, rfl, hp⟩
    exact ⟨e, he, hk, hp⟩

/-- The values of the entries that list a stub are those that its page carries. -/
theorem valuesOf_eq_carried (hcoherent : Coherent f) (hshown : Shown f r other others)
    (hindex : f (.stubIndex shasum) = some index) :
    valuesOf (others.map Entry.postings) index = carried r other.1 shasum := by
  rw [valuesOf, carried, hshown.rows, List.filter_map, List.filter_map, List.map_map,
    List.map_map]
  have hsame : ∀ e ∈ others, ((fun e : ValuePostings => e.postings.stubs.contains index) ∘
      Entry.postings) e = ((fun row : Index.Row => decide (shasum ∈ row.stubs)) ∘
        rowOf f other.1) e := by
    intro e he
    have hmem : shasum ∈ (rowOf f other.1 e).stubs ↔ index ∈ e.stubs :=
      Index.mem_stubs_rowOf hcoherent (hshown.live e he) hindex
    show e.stubs.contains index = decide (shasum ∈ (rowOf f other.1 e).stubs)
    rw [Bool.eq_iff_iff, StubSet.contains_iff, decide_eq_true_eq, hmem]
  rw [List.filter_congr hsame]
  rfl

/-- The values that a page carries are those that it is posted under. -/
theorem mem_carried_iff {name : String} :
    value ∈ carried r name shasum ↔ r.Posted (name, value) shasum := by
  simp only [carried, Reference.rowsOf, List.mem_map, List.mem_filter, decide_eq_true_eq]
  constructor
  · rintro ⟨row, ⟨⟨hrow, hname⟩, hshasum⟩, rfl⟩
    exact ⟨row, hrow, Prod.ext hname rfl, hshasum⟩
  · rintro ⟨row, hrow, hpair, hshasum⟩
    exact ⟨row, ⟨⟨hrow, congrArg Prod.fst hpair⟩, hshasum⟩, congrArg Prod.snd hpair⟩

/-- The entries of an attribute are read. -/
theorem takes_entries (h : Follows used f r) (hdistinct : Distinct used) {key : String}
    {hkey : isName key = true} (hshown : Shown f r ⟨key, hkey⟩ entries) :
    Takes (Shows t .context) (Tables.values .context key) f
      (.ok (entries.map Entry.postings)) f := by
  have hstorable : ∀ e ∈ entries, e.value.Storable :=
    fun e he => hdistinct.storable _ (h.used_value hshown he)
  have hvalues : Takes (Shows t .context) (Tables.values .context (Subtype.val ⟨key, hkey⟩)) f
      (.ok (entries.map Entry.postings)) f := takes_values h.coherent hshown.listing hstorable
  exact hvalues

/-- All attributes are read, and what is read are their entries. -/
theorem exists_takes_entries (h : Follows used f r) (hdistinct : Distinct used) :
    ∃ read : String → List ValuePostings, ∀ key (hkey : isName key = true),
      Takes (Shows t .context) (Tables.values .context key) f (.ok (read key)) f ∧
        ∃ entries, Shown f r ⟨key, hkey⟩ entries ∧ read key = entries.map Entry.postings := by
  have hevery : ∀ key, ∃ read, ∀ hkey : isName key = true,
      Takes (Shows t .context) (Tables.values .context key) f (.ok read) f ∧
        ∃ entries, Shown f r ⟨key, hkey⟩ entries ∧ read = entries.map Entry.postings := by
    intro key
    by_cases hkey : isName key = true
    · obtain ⟨entries, hshown⟩ := h.shown ⟨key, hkey⟩
      exact ⟨_, fun _ => ⟨takes_entries h hdistinct hshown, entries, hshown, rfl⟩⟩
    · exact ⟨[], fun hname => absurd hname hkey⟩
  choose read hread using hevery
  exact ⟨read, hread⟩

/-- The numbers of the pages with some property. -/
def Numbers (f : Fields) (P : String → Prop) (index : UInt32) : Prop :=
  ∃ shasum, f (.stubIndex shasum) = some index ∧ P shasum

/-- A literal hits the pages with a value that it equals. -/
theorem tells_literal (h : Follows used f r) (hshown : Shown f r name entries) (text : String) :
    Tells (hitsBy (equalsLiteral text) (entries.map Entry.postings))
      (Refuses r name.1 (.literal text)) (Numbers f fun s => Hits r name.1 s (.literal text)) := by
  refine (tells_hitsBy _ _).congr ?_ fun _ index => ?_
  · simp only [equalsLiteral_error_iff]
    exact exists_value_iff (P := fun v => ∀ w, v.ofLiteral text ≠ .ok w) h hshown
  · simp only [equalsLiteral_true_iff]
    refine (exists_entry_of_index_iff
      (P := fun v => ∃ w, v.ofLiteral text = .ok w ∧ v.equals w = .ok true)
      h.coherent hshown).trans ?_
    simp only [Numbers, Hits, exists_and_left]

/-- A pattern hits the pages with a text that it matches. -/
theorem tells_pattern (h : Follows used f r) (hshown : Shown f r name entries)
    {p : PatternLiteral} {regex : Pattern.Regex} (hregex : Pattern.compile? p.source = some regex) :
    Tells (hitsBy (matchesPattern name.1 regex) (entries.map Entry.postings))
      (Refuses r name.1 (.pattern p)) (Numbers f fun s => Hits r name.1 s (.pattern p)) := by
  refine (tells_hitsBy _ _).congr ?_ fun _ index => ?_
  · simp only [matchesPattern_error_iff]
    refine (exists_value_iff (P := fun v => v.asText? = none) h hshown).trans ?_
    simp only [Refuses, hregex, reduceCtorEq, false_or]
  · simp only [matchesPattern_true_iff]
    refine (exists_entry_of_index_iff
      (P := fun v => ∃ text, v = .text text ∧ regex.isMatch text = true)
      h.coherent hshown).trans ?_
    refine exists_congr fun shasum => and_congr_right fun _ => ?_
    simp only [Hits, hregex, Option.some.injEq]
    constructor
    · rintro ⟨_, hposted, text, rfl, hmatch⟩
      exact ⟨regex, text, rfl, hposted, hmatch⟩
    · rintro ⟨_, text, rfl, hposted, hmatch⟩
      exact ⟨_, hposted, text, rfl, hmatch⟩

/-- Another attribute hits the pages that carry equal values under both. -/
theorem tells_reference (h : Follows used f r) (hshown : Shown f r name entries)
    (hothers : Shown f r other others) :
    Tells (referenceHits (others.map Entry.postings) (entries.map Entry.postings))
      (Refuses r name.1 (.reference other.1))
      (Numbers f fun s => Hits r name.1 s (.reference other.1)) := by
  refine (tells_referenceHits _ _).congr ?_ fun _ index => ?_
  · refine (exists_entry_iff (P := fun v k => Clash v (valuesOf (others.map Entry.postings) k))
      h.coherent hshown).trans ?_
    constructor
    · rintro ⟨v, shasum, k, hk, hposted, hclash⟩
      rw [valuesOf_eq_carried h.coherent hothers hk] at hclash
      exact ⟨v, shasum, hposted, hclash⟩
    · rintro ⟨v, shasum, hposted, hclash⟩
      obtain ⟨k, hk⟩ := Option.ne_none_iff_exists'.1
        ((h.live shasum).1 (h.live_of_posted hposted))
      rw [← valuesOf_eq_carried h.coherent hothers hk] at hclash
      exact ⟨v, shasum, k, hk, hposted, hclash⟩
  · refine (exists_entry_of_index_iff
      (P := fun v => ∃ w ∈ valuesOf (others.map Entry.postings) index, v.equals w = .ok true)
      h.coherent hshown).trans ?_
    refine exists_congr fun shasum => and_congr_right fun hshasum => ?_
    rw [valuesOf_eq_carried h.coherent hothers hshasum]
    simp only [Hits, mem_carried_iff, exists_and_left]

/-- What an operand hits among the entries of an attribute is what it hits of the pages. -/
theorem takes_operandHits (h : Follows used f r) (hdistinct : Distinct used)
    (hshown : Shown f r name entries) (operand : Operand)
    (hother : ∀ key, operand = .reference key → isName key = true) :
    ∃ out, Takes (Shows t .context)
        (operandHits .context name.1 (entries.map Entry.postings) operand) f out f ∧
      Tells out (Refuses r name.1 operand) (Numbers f fun s => Hits r name.1 s operand) := by
  cases operand with
  | literal text => exact ⟨_, Takes.ofOutcome _, tells_literal h hshown text⟩
  | pattern p =>
      cases hregex : Pattern.compile? p.source with
      | none =>
          have hunfold : operandHits .context name.1 (entries.map Entry.postings) (.pattern p)
              = throw .invalidPattern := by
            rw [operandHits, hregex]
          rw [hunfold]
          exact ⟨.error .invalidPattern, Takes.lift (.error .invalidPattern), .inl hregex⟩
      | some regex =>
          have hunfold : operandHits .context name.1 (entries.map Entry.postings) (.pattern p)
              = Action.ofOutcome
                (hitsBy (matchesPattern name.1 regex) (entries.map Entry.postings)) := by
            rw [operandHits, hregex]
          rw [hunfold]
          exact ⟨_, Takes.ofOutcome _, tells_pattern h hshown hregex⟩
  | reference key =>
      obtain ⟨others, hothers⟩ := h.shown ⟨key, hother key rfl⟩
      have hvalues : Takes (Shows t .context) (Tables.values .context key) f
          (.ok (others.map Entry.postings)) f := takes_entries h hdistinct hothers
      have hunfold : operandHits .context name.1 (entries.map Entry.postings) (.reference key)
          = (Tables.values .context key >>= fun others =>
              Action.ofOutcome (referenceHits others (entries.map Entry.postings))) := rfl
      rw [hunfold]
      exact ⟨_, Takes.bind hvalues (Takes.ofOutcome _), tells_reference h hshown hothers⟩

/-- The stubs of all entries are the numbers of the pages that have the attribute. -/
theorem mem_allStubs_iff (hcoherent : Coherent f) (hshown : Shown f r name entries) :
    index ∈ allStubs (entries.map Entry.postings) ↔
      Numbers f (fun s => ∃ v, r.Posted (name.1, v) s) index := by
  have hentry : (∃ e ∈ entries.map Entry.postings, index ∈ e.postings.stubs ∧ True) ↔ _ :=
    exists_entry_of_index_iff (P := fun _ => True) hcoherent hshown
  simpa only [mem_allStubs, and_true, Numbers] using hentry

/-- A number belongs to one page. -/
theorem numbers_iff (hcoherent : Coherent f) {P : String → Prop}
    (h : f (.stubIndex shasum) = some index) : Numbers f P index ↔ P shasum := by
  constructor
  · rintro ⟨s, hs, hp⟩
    have hshasum := (hcoherent.stub_inverse shasum index).1 h
    rw [(hcoherent.stub_inverse s index).1 hs, Option.some.injEq] at hshasum
    exact hshasum ▸ hp
  · exact fun hp => ⟨shasum, h, hp⟩

/-- Numbers of pages with two properties. -/
theorem numbers_and_iff (hcoherent : Coherent f) {P Q : String → Prop} :
    Numbers f P index ∧ Numbers f Q index ↔ Numbers f (fun s => P s ∧ Q s) index := by
  constructor
  · rintro ⟨⟨s, hs, hp⟩, hq⟩
    exact ⟨s, hs, hp, (numbers_iff hcoherent hs).1 hq⟩
  · rintro ⟨s, hs, hp, hq⟩
    exact ⟨⟨s, hs, hp⟩, s, hs, hq⟩

/-- Numbers of pages with one property and without another. -/
theorem numbers_not_iff (hcoherent : Coherent f) {P Q : String → Prop} :
    Numbers f P index ∧ ¬ Numbers f Q index ↔ Numbers f (fun s => P s ∧ ¬ Q s) index := by
  constructor
  · rintro ⟨⟨s, hs, hp⟩, hq⟩
    exact ⟨s, hs, hp, fun h => hq ((numbers_iff hcoherent hs).2 h)⟩
  · rintro ⟨s, hs, hp, hq⟩
    exact ⟨⟨s, hs, hp⟩, fun h => hq ((numbers_iff hcoherent hs).1 h)⟩

/-- A comparison finds the pages that it hits, or those that have the attribute and are not
hit. -/
theorem takes_operation (h : Follows used f r) (hdistinct : Distinct used) (key : String)
    (op : Operator) (operand : Operand)
    (hkeys : ∀ name ∈ (Expression.operation key op operand).keys, isName name = true) :
    ∃ out, Takes (Shows t .context) (evaluate .context (.operation key op operand)) f out f ∧
      Tells out (Refused r (.operation key op operand))
        (Numbers f fun s => Satisfies r s (.operation key op operand)) := by
  have hkey : isName key = true := by
    refine hkeys key ?_
    cases operand <;> exact List.mem_cons_self ..
  have hother : ∀ other, operand = .reference other → isName other = true := by
    rintro other rfl
    exact hkeys other (List.mem_cons_of_mem _ (List.mem_cons_self ..))
  obtain ⟨entries, hshown⟩ := h.shown ⟨key, hkey⟩
  have hvalues : Takes (Shows t .context) (Tables.values .context key) f
      (.ok (entries.map Entry.postings)) f := takes_entries h hdistinct hshown
  have hoperand : ∃ out, Takes (Shows t .context)
        (operandHits .context key (entries.map Entry.postings) operand) f out f ∧
      Tells out (Refuses r key operand) (Numbers f fun s => Hits r key s operand) :=
    takes_operandHits h hdistinct hshown operand hother
  obtain ⟨out, hhits, htells⟩ := hoperand
  refine ⟨_, Takes.bind hvalues (Takes.bind_outcome hhits fun hits _ => Takes.pure _), ?_⟩
  unfold Refused Satisfies
  cases op.isNegated with
  | true =>
      -- The stubs of the entries are known before the operand is read and cannot be refused.
      have hdiff := (tells_ok (allStubs (entries.map Entry.postings))).both htells
        (f := StubSet.diff) (g := fun a b => a ∧ ¬ b) fun _ _ _ => StubSet.mem_diff
      refine hdiff.congr (iff_of_eq (false_or _)) fun _ index => ?_
      rw [mem_allStubs_iff h.coherent hshown, numbers_not_iff h.coherent]
      rfl
  | false =>
      have hplain : (out >>= fun hits => Except.ok hits) = out := by cases out <;> rfl
      show Tells (out >>= fun hits => Except.ok hits) _ _
      rw [hplain]
      exact htells

/-- Evaluation finds the numbers of the pages that satisfy an expression, and fails if the
expression is refused. -/
theorem takes_evaluate (h : Follows used f r) (hdistinct : Distinct used) (e : Expression)
    (hkeys : ∀ key ∈ e.keys, isName key = true) :
    ∃ out, Takes (Shows t .context) (evaluate .context e) f out f ∧
      Tells out (Refused r e) (Numbers f fun s => Satisfies r s e) := by
  -- Evaluation changes nothing, so that both sides are evaluated over the same tables.
  induction e with
  | condition kind left right ihl ihr =>
      obtain ⟨outl, hleft, htellsl⟩ := ihl fun key hkey => hkeys key (List.mem_append_left _ hkey)
      obtain ⟨outr, hright, htellsr⟩ := ihr fun key hkey => hkeys key (List.mem_append_right _ hkey)
      cases kind with
      | and =>
          refine ⟨_, Takes.bind_outcome hleft fun a _ => Takes.bind_outcome hright fun b _ =>
            Takes.pure (a.inter b), ?_⟩
          have hinter := htellsl.both htellsr fun _ _ _ => StubSet.mem_inter
          exact hinter.congr Iff.rfl fun _ _ => numbers_and_iff h.coherent
      | or =>
          refine ⟨_, Takes.bind_outcome hleft fun a _ => Takes.bind_outcome hright fun b _ =>
            Takes.pure (a.union b), ?_⟩
          have hunion := htellsl.both htellsr fun _ _ _ => StubSet.mem_union
          refine hunion.congr Iff.rfl fun _ _ => ?_
          simp only [Numbers, Satisfies, and_or_left, exists_or]
  | operation key op operand => exact takes_operation h hdistinct key op operand hkeys

/-- An expression with an attribute that is no name is not evaluated. -/
theorem takes_evaluate_invalid (h : Follows used f r) (hdistinct : Distinct used) {e : Expression}
    (hkeys : ¬ ∀ key ∈ e.keys, isName key = true) :
    ∃ fault, Takes (Shows t .context) (evaluate .context e) f (.error fault) f := by
  induction e with
  | condition kind left right ihl ihr =>
      by_cases hleft : ∀ key ∈ left.keys, isName key = true
      · have hright : ¬ ∀ key ∈ right.keys, isName key = true := fun hall =>
          hkeys fun key hkey => (List.mem_append.1 hkey).elim (hleft key) (hall key)
        obtain ⟨fault, hfault⟩ := ihr hright
        obtain ⟨out, hout, _⟩ := takes_evaluate (t := t) h hdistinct left hleft
        cases out with
        | error fault' => exact ⟨fault', Takes.bind_error hout⟩
        | ok hits => exact ⟨fault, Takes.bind hout (Takes.bind_error hfault)⟩
      · obtain ⟨fault, hfault⟩ := ihl hleft
        exact ⟨fault, Takes.bind_error hfault⟩
  | operation key op operand =>
      by_cases hkey : isName key = true
      · -- Only the attribute of a reference is left, which is read second.
        obtain ⟨entries, hshown⟩ := h.shown ⟨key, hkey⟩
        have hvalues : Takes (Shows t .context) (Tables.values .context key) f
            (.ok (entries.map Entry.postings)) f := takes_entries h hdistinct hshown
        cases operand with
        | literal text => exact absurd (fun k hk => List.mem_singleton.1 hk ▸ hkey) hkeys
        | pattern p => exact absurd (fun k hk => List.mem_singleton.1 hk ▸ hkey) hkeys
        | reference other =>
            have hother : ¬ isName other = true := by
              intro hname
              refine hkeys fun k hk => ?_
              rcases List.mem_cons.1 hk with rfl | hk
              · exact hkey
              · exact List.mem_singleton.1 hk ▸ hname
            exact ⟨_, Takes.bind hvalues
              (Takes.bind_error (Takes.bind_error (takes_values_invalid hother)))⟩
      · exact ⟨_, Takes.bind_error (takes_values_invalid hkey)⟩

/-- The number of a page with some property is read as its shasum. -/
theorem stub_of_numbers (h : Follows used f r) {P : String → Prop} (hindex : Numbers f P index) :
    f (.stubIndex (shasumOf f index)) = some index ∧
      f (.stubShasum index) = some (shasumOf f index) ∧ P (shasumOf f index) := by
  obtain ⟨shasum, hshasum, hp⟩ := hindex
  have hback := (h.coherent.stub_inverse shasum index).1 hshasum
  have heq : shasumOf f index = shasum := by
    rw [shasumOf, hback]
    rfl
  rw [heq]
  exact ⟨hshasum, hback, hp⟩

/-- Different numbers of pages are read as different shasums. -/
theorem nodup_shasums (h : Follows used f r) {P : String → Prop} {hits : StubSet}
    (hhits : ∀ index, index ∈ hits ↔ Numbers f P index) :
    (hits.toList.map (shasumOf f)).Nodup := by
  refine hits.nodup.map_on fun a ha b hb heq => ?_
  have hnumber := (stub_of_numbers h ((hhits a).1 ha)).1
  rw [heq, (stub_of_numbers h ((hhits b).1 hb)).1, Option.some.injEq] at hnumber
  exact hnumber.symm

/-- The pages with some property are those that the numbers of them stand for. -/
theorem mem_shasums_iff (h : Follows used f r) {P : String → Prop} {hits : StubSet}
    (hhits : ∀ index, index ∈ hits ↔ Numbers f P index) (hlive : ∀ s, P s → s ∈ r.live) :
    shasum ∈ hits.toList.map (shasumOf f) ↔ P shasum := by
  rw [List.mem_map]
  constructor
  · rintro ⟨index, hindex, rfl⟩
    exact (stub_of_numbers h ((hhits index).1 hindex)).2.2
  · intro hp
    obtain ⟨index, hindex⟩ := Option.ne_none_iff_exists'.1 ((h.live shasum).1 (hlive shasum hp))
    refine ⟨index, (hhits index).2 ⟨shasum, hindex, hp⟩, ?_⟩
    rw [shasumOf, (h.coherent.stub_inverse shasum index).1 hindex]
    rfl

end Tables

/-! ## Queries after changes -/

open Index (Change Used serve refer)

/-- The numbers of pages with some property stand for these pages. -/
theorem takes_shasums_of_numbers {used : Value → Prop} {t : Namespace → Fields} {f : Fields}
    {r : Reference} (h : Follows used f r) {P : String → Prop} {hits : StubSet}
    (hhits : ∀ index, index ∈ hits ↔ Numbers f P index)
    (hlive : ∀ shasum, P shasum → shasum ∈ r.live) :
    ∃ shasums, Takes (Shows t .context) (Tables.shasums .context hits.toList) f (.ok shasums) f ∧
      shasums.Nodup ∧ ∀ shasum, shasum ∈ shasums ↔ P shasum :=
  ⟨hits.toList.map (shasumOf f),
    takes_shasums fun index hindex => (stub_of_numbers h ((hhits index).1 hindex)).2.1,
    nodup_shasums h hhits, fun _ => mem_shasums_iff h hhits hlive⟩

/-- Pages that an operand hits carry a value of the attribute. -/
theorem exists_posted_of_hits {r : Reference} {key shasum : String} {operand : Operand}
    (h : Hits r key shasum operand) : ∃ v, r.Posted (key, v) shasum := by
  cases operand with
  | literal text =>
      obtain ⟨v, _, hposted, _⟩ := h
      exact ⟨v, hposted⟩
  | pattern p =>
      obtain ⟨_, text, _, hposted, _⟩ := h
      exact ⟨.text text, hposted⟩
  | reference other =>
      obtain ⟨v, _, hposted, _⟩ := h
      exact ⟨v, hposted⟩

/-- Pages that satisfy an expression carry a value of some attribute. -/
theorem exists_posted_of_satisfies {r : Reference} {shasum : String} {e : Expression}
    (h : Satisfies r shasum e) : ∃ p, r.Posted p shasum := by
  induction e with
  | condition kind left right ihl ihr =>
      cases kind with
      | and => exact ihl h.1
      | or => exact h.elim ihl ihr
  | operation key op operand =>
      unfold Satisfies at h
      split at h
      · obtain ⟨⟨v, hposted⟩, _⟩ := h
        exact ⟨_, hposted⟩
      · obtain ⟨v, hposted⟩ := exists_posted_of_hits h
        exact ⟨_, hposted⟩

/-- Whatever changes led to the index, evaluating an expression fails if and only if the
expression is refused, and otherwise gives exactly the pages that satisfy it, each once. -/
theorem evaluate_runs {s : Store} (hs : s.Holds ∅) (ops : List Change)
    (hdistinct : Distinct (Used ops))
    (hfits : ∀ front, front <+: ops → (refer {} front).2.Fits) (e : Expression)
    (hkeys : ∀ key ∈ e.keys, isName key = true) :
    ((∃ fault, ((evaluate .context e).run (serve s ops).2).1 = .error fault) ↔
        Refused (refer {} ops).2 e) ∧
      ∀ hits, ((evaluate .context e).run (serve s ops).2).1 = .ok hits →
        ∃ shasums, ((Tables.shasums .context hits.toList).run (serve s ops).2).1 = .ok shasums ∧
          shasums.Nodup ∧
          ∀ shasum, shasum ∈ shasums ↔ Satisfies (refer {} ops).2 shasum e := by
  have hstart : Index.Stands (Used ops) (fun _ _ => none) s {} := Index.stands_empty hs
  have hused : ∀ op ∈ ops, ∀ p ∈ op.pairs, Used ops p.2 :=
    fun op hop p hp => ⟨op, hop, p, hp, rfl⟩
  obtain ⟨f, hshows, hfollows⟩ := (hstart.serve hdistinct ops hused hfits).2
  obtain ⟨out, hevaluate, htells⟩ :=
    takes_evaluate (t := fun _ _ => none) hfollows hdistinct e hkeys
  have hout := (hevaluate _ hshows).1
  rw [hout]
  cases out with
  | error fault => exact ⟨⟨fun _ => htells, fun _ => ⟨fault, rfl⟩⟩, fun _ hok => by cases hok⟩
  | ok hits =>
      obtain ⟨hanswered, hhits⟩ := htells
      have hlive : ∀ shasum, Satisfies (refer {} ops).2 shasum e →
          shasum ∈ (refer {} ops).2.live := by
        intro shasum hsatisfies
        obtain ⟨p, hposted⟩ := exists_posted_of_satisfies hsatisfies
        exact hfollows.live_of_posted hposted
      obtain ⟨shasums, hshasums, hnodup, hmem⟩ := takes_shasums_of_numbers
        (t := fun _ _ => none) hfollows hhits hlive
      refine ⟨⟨fun ⟨_, hfault⟩ => (by cases hfault), fun h => absurd h hanswered⟩, ?_⟩
      rintro _ hok
      cases hok
      exact ⟨shasums, (hshasums _ hshows).1, hnodup, hmem⟩

/-- Of two pages with a tag, the one that was not taken out again is found. -/
theorem evaluate_runs_tagged :
    let stub (shasum : String) : Page.Stub :=
      { shasum, source := "a.md", mount := "/", language := "en", fallback := "en" }
    let page : Page :=
      { shasum := "", source := "a.md", url := "/a", title := "", description := "",
        language := "en", format := "md", sectionName := "", permalink := none, redirects := [],
        translates := none, created := ⟨0, 0, 0⟩, updated := ⟨0, 0, 0⟩, content := "",
        frontmatter := ∅, context := NameMap.ofList [("tags", .list [.text "x", .text "x"])] }
    let ops : List Change := [.add (stub "a") page, .add (stub "b") page, .remove (stub "b")]
    let s : Store := .buffered (.make (.ofBackend .sqlite false) 2 3)
    let e : Expression := .condition .and (.operation "tags" .eq (.literal "x"))
      (.operation "tags" .ne (.literal "y"))
    ∃ hits shasums, ((evaluate .context e).run (serve s ops).2).1 = .ok hits ∧
      ((Tables.shasums .context hits.toList).run (serve s ops).2).1 = .ok shasums ∧
        "a" ∈ shasums ∧ "b" ∉ shasums := by
  intro stub page ops s e
  have hstored : ∀ v ∈ [Value.text "x"], v.Storable := by
    simp only [List.forall_mem_singleton, Value.Storable]
    decide
  have hdistinct : Distinct (Used ops) :=
    (Index.distinct_of_nodup hstored (List.nodup_singleton _)).used (by decide)
  have hfits := Index.fits_of_few ops (by decide) (by decide)
  have hrows : (refer {} ops).2.rows = [⟨"tags", .text "x", ["a"]⟩] := by decide
  have hposted : ∀ p shasum, (refer {} ops).2.Posted p shasum →
      p = ("tags", .text "x") ∧ shasum = "a" := by
    rintro p shasum ⟨row, hrow, rfl, hshasum⟩
    rw [hrows, List.mem_singleton] at hrow
    subst hrow
    exact ⟨rfl, List.mem_singleton.1 hshasum⟩
  have hkeys : ∀ key ∈ e.keys, isName key = true := by decide
  obtain ⟨hfails, hanswers⟩ :=
    evaluate_runs (Store.holds_buffered .sqlite 2 3) ops hdistinct hfits e hkeys
  have hanswered : ¬ Refused (refer {} ops).2 e := by
    rintro (⟨v, shasum, hv, hnone⟩ | ⟨v, shasum, hv, hnone⟩)
    · obtain ⟨heq, _⟩ := hposted _ _ hv
      obtain rfl : v = .text "x" := congrArg Prod.snd heq
      exact hnone _ rfl
    · obtain ⟨heq, _⟩ := hposted _ _ hv
      obtain rfl : v = .text "x" := congrArg Prod.snd heq
      exact hnone _ rfl
  cases hout : ((evaluate .context e).run (serve s ops).2).1 with
  | error fault => exact absurd (hfails.1 ⟨fault, hout⟩) hanswered
  | ok hits =>
      obtain ⟨shasums, hshasums, _, hmem⟩ := hanswers hits hout
      refine ⟨hits, shasums, rfl, hshasums, (hmem "a").2 ?_, fun hb => ?_⟩
      · have hcarried : (refer {} ops).2.Posted ("tags", .text "x") "a" := by decide
        have hx : Satisfies (refer {} ops).2 "a" (.operation "tags" .eq (.literal "x")) := by
          unfold Satisfies
          rw [if_neg (by decide)]
          exact ⟨_, _, hcarried, rfl, by decide⟩
        have hy : Satisfies (refer {} ops).2 "a" (.operation "tags" .ne (.literal "y")) := by
          unfold Satisfies
          rw [if_pos (by decide)]
          refine ⟨⟨_, hcarried⟩, ?_⟩
          rintro ⟨v, w, hv, hread, hequal⟩
          obtain ⟨heq, _⟩ := hposted _ _ hv
          obtain rfl : v = .text "x" := congrArg Prod.snd heq
          cases hread
          exact absurd hequal (by decide)
        exact ⟨hx, hy⟩
      · obtain ⟨p, hp⟩ := exists_posted_of_satisfies ((hmem "b").1 hb)
        exact absurd (hposted p "b" hp).2 (by decide)

end SiteIndex.Query
