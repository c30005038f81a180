import SiteIndex.Proofs.Posting.Values

/-!
# The stubs of the tokens

Posting a stub under a token and taking it away change which stubs the token lists, and nothing
else (`Fields.mem_stubs_post`, `Fields.mem_stubs_unpost`). The tokens of a stub are found by going
through the postings of all of them (`exists_takes_tokensOf`).
-/

namespace SiteIndex.Posting

open Store (Namespace OrderedMap)
open Store.Key (tablePrefix)
open SiteIndex.Action (Takes)

namespace Fields

variable {f : Fields} {heading other : Heading} {stub index : UInt32}

/-- The stubs under a heading after those under one are changed. -/
theorem stubs_putStubs (stubs : StubSet) :
    (f.putStubs heading stubs).stubs other = if other = heading then stubs else f.stubs other := by
  unfold Fields.stubs putStubs
  rw [put_postings]
  by_cases hother : other = heading
  · rw [if_pos hother, if_pos hother]
    by_cases hempty : stubs = ∅
    · rw [if_pos hempty, hempty]
      rfl
    · rw [if_neg hempty]
      rfl
  · rw [if_neg hother, if_neg hother]

/-- Posting adds one stub to one heading. -/
theorem mem_stubs_post : index ∈ (f.post heading stub).2.stubs other ↔
    (other = heading ∧ index = stub) ∨ index ∈ f.stubs other := by
  unfold post
  split
  case isTrue hmem =>
    refine (or_iff_right_of_imp ?_).symm
    rintro ⟨rfl, rfl⟩
    exact StubSet.contains_iff.1 hmem
  case isFalse =>
    rw [stubs_putStubs]
    by_cases hother : other = heading
    · rw [if_pos hother, hother, StubSet.mem_insert, and_iff_right rfl]
    · rw [if_neg hother]
      exact (or_iff_right fun h => hother h.1).symm

/-- Taking a stub away from a heading leaves all other stubs. -/
theorem mem_stubs_unpost : index ∈ (f.unpost heading stub).2.stubs other ↔
    index ∈ f.stubs other ∧ ¬ (other = heading ∧ index = stub) := by
  unfold unpost
  split
  case isTrue =>
    rw [stubs_putStubs]
    by_cases hother : other = heading
    · rw [if_pos hother, hother, StubSet.mem_erase, and_iff_right rfl]
    · rw [if_neg hother]
      exact (and_iff_left fun h => hother h.1).symm
  case isFalse hmem =>
    refine (and_iff_left_of_imp ?_).symm
    rintro hindex ⟨rfl, rfl⟩
    exact hmem (StubSet.contains_iff.2 hindex)

/-- Posting leaves the numbers of shasums alone. -/
@[simp] theorem stubIndex_post (shasum : String) :
    (f.post heading stub).2 (.stubIndex shasum) = f (.stubIndex shasum) :=
  f.post_of_ne (c := .stubIndex shasum) nofun stub

/-- Posting leaves the shasums of numbers alone. -/
@[simp] theorem stubShasum_post (k : UInt32) :
    (f.post heading stub).2 (.stubShasum k) = f (.stubShasum k) :=
  f.post_of_ne (c := .stubShasum k) nofun stub

/-- Posting hands out no number. -/
@[simp] theorem nextStub_post : (f.post heading stub).2 .nextStub = f .nextStub :=
  f.post_of_ne (c := .nextStub) nofun stub

/-- Posting leaves summaries alone. -/
@[simp] theorem summary_post (shasum : String) :
    (f.post heading stub).2 (.summary shasum) = f (.summary shasum) :=
  f.post_of_ne (c := .summary shasum) nofun stub

/-- The summaries of pages after a change of one. -/
@[simp] theorem put_summary (a b : String) (entry : Option Bytes) :
    f.put (.summary a) entry (.summary b) = if b = a then entry else f (.summary b) := by
  by_cases h : b = a
  · subst h
    rw [if_pos rfl, put_self]
  · rw [if_neg h, put_of_ne f (by simpa using h)]

/-- A heading with postings has a stub. -/
theorem postings_ne_none_iff (h : Coherent f) :
    f (.postings heading) ≠ none ↔ ∃ index, index ∈ f.stubs heading := by
  rw [Option.ne_none_iff_exists']
  constructor
  · rintro ⟨stubs, hstubs⟩
    have hne : stubs.toList ≠ [] := fun hnil =>
      h.postings_ne heading stubs hstubs (StubSet.toList_eq_nil_iff.1 hnil)
    obtain ⟨index, hindex⟩ := List.exists_mem_of_ne_nil _ hne
    exact ⟨index, mem_stubs_iff.2 ⟨stubs, hstubs, StubSet.mem_toList.1 hindex⟩⟩
  · rintro ⟨index, hindex⟩
    obtain ⟨stubs, hstubs, _⟩ := mem_stubs_iff.1 hindex
    exact ⟨stubs, hstubs⟩

/-- A summary changes none of the other cells. -/
theorem coherent_put_summary (h : Coherent f) (shasum : String) (entry : Option Bytes) :
    Coherent (f.put (.summary shasum) entry) := by
  constructor
  case stub_inverse => simpa using h.stub_inverse
  case stub_lt => simpa [Fields.nextStub] using h.stub_lt
  case valueSlot_iff => simpa using h.valueSlot_iff
  case postings_iff => simpa using h.postings_iff
  case slot_lt => simpa [Fields.nextSlot] using h.slot_lt
  case postings_ne => simpa using h.postings_ne

end Fields

/-! ## The tokens of a stub -/

section Scans

variable {m : OrderedMap Bytes} {t : Namespace → Fields} {ns : Namespace} {f : Fields}

/-- The postings of tokens are those of the table of tokens. -/
theorem table_token (c : Cell) : c.table = .token ↔ ∃ text, c = .postings (.token text) := by
  constructor
  · intro hc
    cases c with
    | postings heading =>
        cases heading with
        | token text => exact ⟨text, rfl⟩
        | slot name slot => cases hc
    | _ => cases hc
  · rintro ⟨text, rfl⟩
    rfl

/-- The tokens that have postings are listed, in the order of their bytes. -/
theorem exists_takes_tokens (hm : Stored m (Function.update t ns f)) :
    ∃ names : List Name,
      names.Pairwise (fun a b => Bytes.Before (Text.Utf8.encode a.1) (Text.Utf8.encode b.1)) ∧
      (∀ text, text ∈ names ↔ f (.postings (.token text)) ≠ none) ∧
      Takes (Shows t ns) (Tables.tokens ns) f (.ok (names.map (·.1))) f := by
  obtain ⟨found, hentries, hordered, hmem⟩ := exists_scan_ordered .token
    (fun text => .postings (.token text)) StubSet.blob (fun text => f (.postings (.token text))) hm
    (fun _ _ heq => Heading.token.inj (Cell.postings.inj heq)) table_token fun _ => rfl
  refine ⟨found.map (·.1), hordered.imp fun {a b} hab => ?_, mem_names_iff hmem,
    Takes.refine fun m' hm' => ⟨m', ?_, hm'⟩⟩
  · show Bytes.Before (Text.Utf8.encode a.1) (Text.Utf8.encode b.1)
    rwa [← Bytes.before_append_iff (tablePrefix ns .token)]
  · obtain rfl := hm'.unique hm
    exact takes_names (fun text => .postings (.token text)) (fun _ => rfl) hentries

/-- A token is named if the stub is posted under it. -/
theorem tokenOf?_postings (text : Name) (stubs : StubSet) (stub : UInt32) :
    Tables.tokenOf? (tablePrefix ns .token) stub
        ((Cell.postings (.token text)).key ns, stubs.blob)
      = .ok (if stubs.contains stub then some text.1 else none) := by
  have hname : Store.Key.decodeName ((Cell.postings (.token text)).key ns) (tablePrefix ns .token)
      = .ok text.1 := decodeName_append (tablePrefix ns .token) text.1
  rw [Tables.tokenOf?]
  dsimp only
  rw [PostingList.decode_blob, hname]
  show (if PostingList.contains ⟨stubs.toList⟩ stub then _ else _) = _
  rw [PostingList.contains_toList]
  split <;> rfl

/-- The tokens under which a stub is posted are found, each once. -/
theorem exists_takes_tokensOf (hm : Stored m (Function.update t ns f)) (stub : UInt32) :
    ∃ names : List Name, names.Nodup ∧
      (∀ text, text ∈ names ↔ stub ∈ f.stubs (.token text)) ∧
      Takes (Shows t ns) (Tables.tokensOf ns stub) f (.ok (names.map (·.1))) f := by
  obtain ⟨found, hentries, hnodup, hmem⟩ := exists_scan_names .token
    (fun text => .postings (.token text)) StubSet.blob (fun text => f (.postings (.token text))) hm
    (fun _ _ heq => Heading.token.inj (Cell.postings.inj heq)) table_token fun _ => rfl
  refine ⟨(found.filter (·.2.contains stub)).map (·.1),
    hnodup.sublist (List.Sublist.map _ (List.filter_sublist ..)), fun text => ?_,
    Takes.refine fun m' hm' => ⟨m', ?_, hm'⟩⟩
  · simp only [List.mem_map, List.mem_filter, StubSet.contains_iff]
    constructor
    · rintro ⟨⟨other, stubs⟩, ⟨hp, hstub⟩, rfl⟩
      exact Fields.mem_stubs_iff.2 ⟨stubs, (hmem other stubs).1 hp, hstub⟩
    · intro hstub
      obtain ⟨stubs, hstubs, hstub⟩ := Fields.mem_stubs_iff.1 hstub
      exact ⟨(text, stubs), ⟨(hmem text stubs).2 hstubs, hstub⟩, rfl⟩
  · obtain rfl := hm'.unique hm
    refine Takes.bind (Store.takes_scan _) ?_
    rw [hentries, List.mapM_map]
    have hread : Takes Store.Holds (found.mapM fun p => Action.ofOutcome
        (Tables.tokenOf? (tablePrefix ns .token) stub
          ((Cell.postings (.token p.1)).key ns, p.2.blob))) m'
        (.ok (found.map fun p => if p.2.contains stub then some p.1.1 else none)) m' := by
      refine Takes.mapM fun p _ => ?_
      rw [tokenOf?_postings]
      exact Takes.ofOutcome _
    have hnames : (found.map fun p => if p.2.contains stub then some p.1.1 else none).filterMap id
        = ((found.filter (·.2.contains stub)).map (·.1)).map (·.1) := by
      rw [List.filterMap_map, List.map_map, ← List.filterMap_eq_map, List.filterMap_filter]
      rfl
    rw [← hnames]
    exact Takes.bind hread (Takes.pure _)

end Scans

end SiteIndex.Posting
