import Mathlib.Logic.Function.Basic
import SiteIndex.Proofs.Posting.Coherence

/-!
# Numbers are handed out once

A `History` runs operations on the tables of a store and notes which numbers the counters hand
out. Along every history the tables of both namespaces are coherent and no number is handed out
twice between two clearings (`coherent_run`), as long as no counter runs over.
-/

namespace SiteIndex.Posting

open Store (Namespace OrderedMap)
open Store.Key (decodeNumber isName)
open SiteIndex.Action (Takes)

/-! ## Numbers that are handed out -/

/-- The number that is stored under a key. -/
def numberAt (m : OrderedMap Bytes) (key : Bytes) : Option UInt32 :=
  (m.get? key).bind fun bytes => (decodeNumber bytes).toOption

/-- The number that a cell holds. -/
def Fields.number (f : Fields) (c : Cell) : Option UInt32 :=
  ((f c).map c.bytes).bind fun bytes => (decodeNumber bytes).toOption

namespace Fields

variable (f : Fields)

/-- A shasum has the number of its field. -/
@[simp] theorem number_stubIndex (shasum : String) :
    f.number (.stubIndex shasum) = f (.stubIndex shasum) := by
  rw [number]
  cases f (.stubIndex shasum) with
  | none => rfl
  | some index => exact congrArg Except.toOption (decodeNumber_encodeNumber index)

/-- A value has the slot of its field. -/
@[simp] theorem number_valueSlot (name : Name) (hash : Bytes) :
    f.number (.valueSlot name hash) = f (.valueSlot name hash) := by
  rw [number]
  cases f (.valueSlot name hash) with
  | none => rfl
  | some slot => exact congrArg Except.toOption (decodeNumber_encodeNumber slot)

/-- Forgetting a shasum leaves the counters alone. -/
theorem next_forgetStub (shasum : String) (c : Counter) :
    c.next (f.forgetStub shasum).2 = c.next f := by
  unfold forgetStub
  cases f (.stubIndex shasum) <;> cases c <;> simp [Counter.next, nextStub, nextSlot]

/-- Posting leaves the counters alone. -/
theorem next_post (heading : Heading) (stub : UInt32) (c : Counter) :
    c.next (f.post heading stub).2 = c.next f := by
  cases c with
  | stubs => exact congrArg (Option.getD · 0) (f.post_of_ne (c := .nextStub) (by simp) stub)
  | slots name =>
      exact congrArg (Option.getD · 0) (f.post_of_ne (c := .nextSlot name) (by simp) stub)

/-- Taking a stub away leaves the counters alone. -/
theorem next_unpost (heading : Heading) (stub : UInt32) (c : Counter) :
    c.next (f.unpost heading stub).2 = c.next f := by
  cases c with
  | stubs => exact congrArg (Option.getD · 0) (f.unpost_of_ne (c := .nextStub) (by simp) stub)
  | slots name =>
      exact congrArg (Option.getD · 0) (f.unpost_of_ne (c := .nextSlot name) (by simp) stub)

/-- Taking a stub away from a value leaves the counters alone. -/
theorem next_removeValue (name : Name) (value : Value) (stub : UInt32) (c : Counter) :
    c.next (f.removeValue name value stub).2 = c.next f := by
  obtain hsame | ⟨slot, -, hdrop | ⟨-, hunpost⟩⟩ := f.removeValue_cases name value stub
  · rw [hsame]
  · rw [hdrop]
    cases c <;> simp [Counter.next, nextStub, nextSlot, dropSlot]
  · rw [hunpost, f.next_unpost]

end Fields

namespace Op

variable {f : Fields}

/-- An operation that draws no number leaves the counters alone, unless it empties the tables. -/
theorem next_perform_of_draws_none {op : Op} (h : op.draws = none) (hclear : op ≠ .clear)
    (c : Counter) : c.next (op.perform f) = c.next f := by
  cases op with
  | ensureStub shasum => cases h
  | forgetStub shasum => exact f.next_forgetStub shasum c
  | addValue name value stub =>
      by_cases hname : isName name = true
      · rw [draws, dif_pos hname] at h
        cases h
      · rw [perform, dif_neg hname]
  | removeValue name value stub =>
      by_cases hname : isName name = true
      · rw [perform, dif_pos hname]
        exact f.next_removeValue _ value stub c
      · rw [perform, dif_neg hname]
  | addToken token stub =>
      by_cases hname : isName token = true
      · rw [perform, dif_pos hname]
        exact f.next_post _ stub c
      · rw [perform, dif_neg hname]
  | removeToken token stub =>
      by_cases hname : isName token = true
      · rw [perform, dif_pos hname]
        exact f.next_unpost _ stub c
      · rw [perform, dif_neg hname]
  | clear => exact absurd rfl hclear

/-- An operation that may draw a number draws the next one of its counter, unless the cell that
it is for has one. -/
theorem next_perform_of_draws {op : Op} {counter : Counter} {cell : Cell}
    (h : op.draws = some (counter, cell)) :
    (f.number cell = none ∧ (op.perform f).number cell = some (counter.next f) ∧
      ∀ c : Counter, c.next (op.perform f) = if c = counter then c.next f + 1 else c.next f) ∨
    (f.number cell ≠ none ∧ ∀ c : Counter, c.next (op.perform f) = c.next f) := by
  cases op with
  | ensureStub shasum =>
      cases h
      rw [perform, Fields.ensureStub, Fields.number_stubIndex]
      cases hindex : f (.stubIndex shasum) with
      | some index => exact .inr ⟨by simp, fun _ => rfl⟩
      | none =>
          refine .inl ⟨rfl, by simp [Counter.next], fun c => ?_⟩
          cases c <;> simp [Counter.next, Fields.nextStub, Fields.nextSlot]
  | addValue name value stub =>
      by_cases hname : isName name = true
      · rw [draws, dif_pos hname] at h
        cases h
        rw [perform, dif_pos hname, Fields.addValue, Fields.number_valueSlot,
          Fields.number_valueSlot, Fields.post_of_ne _ (by simp)]
        simp only [Fields.next_post]
        rw [Fields.ensureSlot]
        cases hslot : f (.valueSlot ⟨name, hname⟩ value.hash) with
        | some slot => exact .inr ⟨by simp, fun _ => rfl⟩
        | none =>
            refine .inl ⟨rfl, by simp [Counter.next], fun c => ?_⟩
            cases c with
            | stubs => simp [Counter.next, Fields.nextStub]
            | slots other =>
                by_cases hother : other = ⟨name, hname⟩
                · subst hother
                  simp [Counter.next, Fields.nextSlot]
                · simp [Counter.next, Fields.nextSlot, hother]
      · rw [draws, dif_neg hname] at h
        cases h
  | forgetStub _ | removeValue _ _ _ | addToken _ _ | removeToken _ _ | clear => cases h

end Op

/-! ## Histories -/

/-- A store and the numbers that were handed out since its namespaces were last emptied. -/
structure History where
  store : Store
  issued : Namespace → Counter → List UInt32

namespace History

/-- Nothing has been handed out yet. -/
def start (s : Store) : History := ⟨s, fun _ _ => []⟩

/-- The numbers that a counter handed out between two stores: the one that stands under the key
of the operation after it and did not before. -/
def drawn (ns : Namespace) (op : Op) (counter : Counter) (before after : Store) : List UInt32 :=
  match op.draws with
  | some (c, cell) =>
    if c = counter ∧ numberAt before.content (cell.key ns) = none then
      (numberAt after.content (cell.key ns)).toList
    else []
  | none => []

/-- Runs an operation. What is stored stays also if the operation fails. -/
def step (h : History) (ns : Namespace) (op : Op) : History :=
  let store := ((op.action ns).run h.store).2
  { store
    issued := fun ns' counter =>
      if ns' ≠ ns then h.issued ns' counter
      else if op = .clear then []
      else h.issued ns counter ++ drawn ns op counter h.store store }

/-- Runs several operations. -/
def run (h : History) (ops : List (Namespace × Op)) : History :=
  ops.foldl (fun h o => h.step o.1 o.2) h

/-- The store of a history stands for coherent tables, and its counters have handed out the
numbers below them in order. -/
structure Sound (h : History) (t : Namespace → Fields) : Prop where
  reliable : h.store.Reliable
  stored : Stored h.store.content t
  coherent : ∀ ns, Coherent (t ns)
  issued : ∀ ns c, (h.issued ns c).map (·.toNat) = List.range (c.next (t ns)).toNat

variable {h : History} {t : Namespace → Fields}

/-- The number under a key is that of the cell. -/
theorem numberAt_key {m : OrderedMap Bytes} (hm : Stored m t) (ns : Namespace) (c : Cell) :
    numberAt m (c.key ns) = (t ns).number c := by
  rw [numberAt, hm.get?_key, Fields.number]

/-- A counter goes up by the number that it hands out, and not otherwise. -/
theorem drawn_cases {before after : Store} {ns : Namespace} {op : Op}
    (hbefore : Stored before.content t)
    (hafter : Stored after.content (Function.update t ns (op.perform (t ns))))
    (hclear : op ≠ .clear) (c : Counter) :
    (drawn ns op c before after = [] ∧ c.next (op.perform (t ns)) = c.next (t ns)) ∨
    (drawn ns op c before after = [c.next (t ns)] ∧
      c.next (op.perform (t ns)) = c.next (t ns) + 1) := by
  unfold drawn
  cases hdraws : op.draws with
  | none => exact .inl ⟨rfl, Op.next_perform_of_draws_none hdraws hclear c⟩
  | some draw =>
      obtain ⟨counter, cell⟩ := draw
      dsimp only
      rw [numberAt_key hbefore, numberAt_key hafter, Function.update_self]
      rcases Op.next_perform_of_draws (f := t ns) hdraws with ⟨hfree, hnew, hnext⟩ | ⟨hused, hnext⟩
      · rw [hfree, hnew, hnext]
        by_cases hc : counter = c
        · subst hc
          exact .inr ⟨by rw [if_pos ⟨rfl, rfl⟩]; rfl, if_pos rfl⟩
        · exact .inl ⟨if_neg fun h => hc h.1, if_neg (Ne.symm hc)⟩
      · exact .inl ⟨if_neg fun h => hused h.2, hnext c⟩

/-- A number is not its own successor. -/
theorem ne_succ (n : UInt32) : n ≠ n + 1 := by
  intro h
  have hone : (1 : UInt32).toNat = 1 := rfl
  have hnat := congrArg UInt32.toNat h
  rw [UInt32.toNat_add, hone] at hnat
  have := n.toNat_lt
  omega

/-- A history stays sound when the tables of one namespace change soundly. -/
theorem Sound.update (hsound : h.Sound t) {h' : History} {ns : Namespace} {f : Fields}
    (hreliable : h'.store.Reliable)
    (hstored : Stored h'.store.content (Function.update t ns f)) (hcoherent : Coherent f)
    (hissued : ∀ c, (h'.issued ns c).map (·.toNat) = List.range (c.next f).toNat)
    (hothers : ∀ ns', ns' ≠ ns → ∀ c, h'.issued ns' c = h.issued ns' c) :
    h'.Sound (Function.update t ns f) := by
  refine ⟨hreliable, hstored, fun ns' => ?_, fun ns' c => ?_⟩
  · by_cases hns : ns' = ns
    · subst hns
      rw [Function.update_self]
      exact hcoherent
    · rw [Function.update_of_ne hns]
      exact hsound.coherent ns'
  · by_cases hns : ns' = ns
    · subst hns
      rw [Function.update_self]
      exact hissued c
    · rw [hothers ns' hns, Function.update_of_ne hns]
      exact hsound.issued ns' c

/-- An operation keeps the history sound unless a counter runs over. -/
theorem Sound.step (hsound : h.Sound t) (ns : Namespace) (op : Op)
    (hroom : ∀ c, ((h.step ns op).issued ns c).length < UInt32.size) :
    (h.step ns op).Sound (Function.update t ns (op.perform (t ns))) := by
  have htakes : ∃ out, Takes (Shows t ns) (op.action ns) (t ns) out (op.perform (t ns)) :=
    op.takes_action
  obtain ⟨out, htakes⟩ := htakes
  obtain ⟨_, m, ⟨hreliable, hcontent⟩, hstored⟩ := htakes h.store
    ⟨h.store.content, ⟨hsound.reliable, rfl⟩, by rw [Function.update_eq_self]; exact hsound.stored⟩
  subst hcontent
  have hlength : ∀ c, (h.issued ns c).length = (c.next (t ns)).toNat := by
    intro c
    have hissued := congrArg List.length (hsound.issued ns c)
    rwa [List.length_map, List.length_range] at hissued
  have hothers : ∀ ns', ns' ≠ ns → ∀ c, (h.step ns op).issued ns' c = h.issued ns' c := by
    intro ns' hns c
    simp [History.step, hns]
  by_cases hclear : op = .clear
  · subst hclear
    refine hsound.update hreliable hstored Coherent.empty (fun c => ?_) hothers
    have hissued : (h.step ns .clear).issued ns c = [] := by simp [History.step]
    rw [hissued]
    cases c <;> rfl
  · have hissued : ∀ c, (h.step ns op).issued ns c
        = h.issued ns c ++ drawn ns op c h.store (h.step ns op).store := by
      intro c
      simp [History.step, hclear]
    have hdrawn : ∀ c, (drawn ns op c h.store (h.step ns op).store = [] ∧ _) ∨
        (drawn ns op c h.store (h.step ns op).store = [c.next (t ns)] ∧ _) :=
      drawn_cases hsound.stored hstored hclear
    -- A counter that goes up has handed out all numbers below it, so that there is room for one.
    have hbound : ∀ c : Counter, c.next (op.perform (t ns)) = c.next (t ns) + 1 →
        (c.next (t ns)).toNat + 1 < UInt32.size := by
      intro c hnext
      rcases hdrawn c with ⟨_, hsame⟩ | ⟨hone, _⟩
      · exact absurd (hsame.symm.trans hnext) (ne_succ _)
      · have hroom := hroom c
        rwa [hissued c, List.length_append, hlength c, hone] at hroom
    refine hsound.update hreliable hstored ?_ (fun c => ?_) hothers
    · refine (hsound.coherent ns).perform op fun c cell hdraws hcell => hbound c ?_
      rcases Op.next_perform_of_draws (f := t ns) hdraws with ⟨_, _, hnext⟩ | ⟨hused, _⟩
      · rw [hnext, if_pos rfl]
      · exact absurd (by rw [Fields.number, hcell]; rfl) hused
    · rw [hissued c, List.map_append, hsound.issued]
      rcases hdrawn c with ⟨hnone, hsame⟩ | ⟨hone, hnext⟩
      · rw [hnone, hsame, List.map_nil, List.append_nil]
      · rw [hone, hnext, toNat_succ (hbound c hnext), List.range_succ]
        rfl

/-- Operations keep the history sound unless a counter runs over on the way. -/
theorem Sound.run (hsound : h.Sound t) (ops : List (Namespace × Op))
    (hroom : ∀ front, front <+: ops → ∀ ns c,
      ((h.run front).issued ns c).length < UInt32.size) :
    ∃ t', (h.run ops).Sound t' := by
  induction ops generalizing h t with
  | nil => exact ⟨t, hsound⟩
  | cons o rest ih =>
      refine ih (hsound.step o.1 o.2 (hroom [o] ⟨rest, rfl⟩ o.1)) fun front hfront => ?_
      exact hroom (o :: front) ((List.prefix_cons_inj o).2 hfront)

/-- The history of an empty store starts sound. -/
theorem Sound.start {s : Store} (hs : s.Holds ∅) : (start s).Sound fun _ _ => none where
  reliable := hs.1
  stored := hs.2 ▸ Stored.empty
  coherent _ := Coherent.empty
  issued _ c := by cases c <;> rfl

/-- The numbers below a counter are those that it has handed out, each once. -/
theorem Sound.issued_spec (hsound : h.Sound t) (ns : Namespace) (c : Counter) :
    (h.issued ns c).Nodup ∧ ∀ n, n ∈ h.issued ns c ↔ n < c.next (t ns) := by
  have hissued := hsound.issued ns c
  constructor
  · refine List.Nodup.of_map (·.toNat) ?_
    rw [hissued]
    exact List.nodup_range
  · intro n
    rw [UInt32.lt_iff_toNat_lt, ← List.mem_range, ← hissued, List.mem_map]
    constructor
    · exact fun hn => ⟨n, hn, rfl⟩
    · rintro ⟨k, hk, heq⟩
      exact UInt32.toNat_inj.1 heq ▸ hk

/-- Stored postings are those of a set with members. -/
theorem Sound.decode_postings (hsound : h.Sound t) {ns : Namespace} {heading : Heading}
    {blob : Bytes} (hblob : h.store.content.get? ((Cell.postings heading).key ns) = some blob) :
    ∃ p, PostingList.decode blob = .ok p ∧ p.stubs ≠ [] ∧ p.Ascending := by
  rw [hsound.stored.get?_key] at hblob
  obtain ⟨stubs, hstubs, rfl⟩ := Option.map_eq_some_iff.1 hblob
  refine ⟨⟨stubs.toList⟩, PostingList.decode_blob stubs, fun hnil => ?_, stubs.ascending⟩
  exact (hsound.coherent ns).postings_ne heading stubs hstubs (StubSet.toList_eq_nil_iff.1 hnil)

/-- Whatever operations are run on a store that was empty, in whatever order and in both
namespaces, the tables stay coherent, no number is handed out twice before its namespace is
emptied, and every stored posting list ascends and is not empty. -/
theorem coherent_run {s : Store} (hs : s.Holds ∅) (ops : List (Namespace × Op))
    (hroom : ∀ front, front <+: ops → ∀ ns c,
      (((start s).run front).issued ns c).length < UInt32.size) :
    ∃ t : Namespace → Fields, Stored ((start s).run ops).store.content t ∧
      (∀ ns, Coherent (t ns)) ∧
      (∀ ns c, (((start s).run ops).issued ns c).Nodup ∧
        ∀ n, n ∈ ((start s).run ops).issued ns c ↔ n < c.next (t ns)) ∧
      ∀ ns heading blob,
        ((start s).run ops).store.content.get? ((Cell.postings heading).key ns) = some blob →
        ∃ p, PostingList.decode blob = .ok p ∧ p.stubs ≠ [] ∧ p.Ascending := by
  obtain ⟨t, ht⟩ := (Sound.start hs).run ops hroom
  exact ⟨t, ht.stored, ht.coherent, ht.issued_spec, fun _ _ _ => ht.decode_postings⟩

/-- Counters hand out at most one number in each step. -/
theorem length_issued_le (h : History) (ops : List (Namespace × Op)) (ns : Namespace)
    (c : Counter) : ((h.run ops).issued ns c).length ≤ (h.issued ns c).length + ops.length := by
  induction ops generalizing h with
  | nil => exact Nat.le_refl _
  | cons o rest ih =>
      have hdrawn : ∀ before after, (drawn o.1 o.2 c before after).length ≤ 1 := by
        intro before after
        unfold drawn
        split
        · split
          · cases numberAt after.content _ <;> simp
          · exact Nat.zero_le 1
        · exact Nat.zero_le 1
      have hstep : ((h.step o.1 o.2).issued ns c).length ≤ (h.issued ns c).length + 1 := by
        unfold step
        dsimp only
        by_cases hns : ns = o.1
        · subst hns
          by_cases hclear : o.2 = .clear
          · simp [hclear]
          · simp only [ne_eq, not_true_eq_false, if_false, hclear, List.length_append]
            exact Nat.add_le_add_left (hdrawn _ _) _
        · simp [hns]
      have hrest := ih (h.step o.1 o.2)
      rw [List.length_cons]
      show (((h.step o.1 o.2).run rest).issued ns c).length ≤ _
      omega

/-- A shasum that is indexed again behind a write buffer, after values and tokens came and went. -/
theorem coherent_run_reindexed :
    let ops : List (Namespace × Op) :=
      [(.context, .ensureStub "a"), (.context, .addValue "title" (.text "home") 0),
        (.keyword, .addToken "home" 0), (.context, .removeValue "title" (.text "home") 0),
        (.context, .forgetStub "a"), (.context, .ensureStub "a")]
    let h := (start (.buffered (.make (.ofBackend .sqlite false) 2 3))).run ops
    ∃ t : Namespace → Fields, Stored h.store.content t ∧ ∀ ns, Coherent (t ns) := by
  intro ops h
  have hroom : ∀ front, front <+: ops → ∀ ns c,
      (((start (.buffered (.make (.ofBackend .sqlite false) 2 3))).run front).issued ns c).length
        < UInt32.size := by
    intro front hfront ns c
    have hlength : front.length ≤ 6 := hfront.length_le
    have hissued := length_issued_le
      (start (.buffered (.make (.ofBackend .sqlite false) 2 3))) front ns c
    have hstart : ((start (.buffered (.make (.ofBackend .sqlite false) 2 3))).issued ns c).length
      = 0 := rfl
    have hsize : UInt32.size = 4294967296 := rfl
    omega
  obtain ⟨t, hstored, hcoherent, _⟩ := coherent_run (Store.holds_buffered .sqlite 2 3) ops hroom
  exact ⟨t, hstored, hcoherent⟩

end History

end SiteIndex.Posting
