import SiteIndex.Proofs.Posting.Rules
import SiteIndex.Proofs.Value.Encoding

/-!
# Attributes of one type

If everything that is posted under an attribute has one type, so has what is stored as its values:
this is a rule that changes of the tables keep (`lenient_valued`). From a store that respects it the
values of the attribute are read as values of that type, whatever else is stored, and no reading
fails because types do not match (`yields_values`).
-/

namespace SiteIndex.Posting

open SiteIndex.Action (Meets Yields)
open Store (Namespace OrderedMap)
open Store.Key (decodeTrailing encodeNumber isName)

/-! ## Failures of reading -/

/-- The failure is not that of values whose types do not match. -/
abbrev NoMismatch (e : Failure) : Prop := e.kind ≠ .typeMismatch

section Failures

/-- A number of variable length that cannot be read has no type. -/
theorem meets_decodeFrom (shift value : Nat) (bytes : Bytes) :
    Meets (fun _ => True) NoMismatch (Varint.decodeFrom shift value bytes) := by
  induction bytes generalizing shift value with
  | nil => exact Meets.error (by decide)
  | cons b rest ih =>
      unfold Varint.decodeFrom
      split
      · exact Meets.error (by decide)
      · dsimp only
        split
        · exact Meets.ok trivial
        · exact ih ..

/-- Numbers of variable length are read, or they break off or run over. -/
theorem meets_decodeAll (bytes : Bytes) :
    Meets (fun _ => True) NoMismatch (Varint.decodeAll bytes) := by
  induction bytes using Varint.decodeAll.induct with
  | case1 bytes h =>
      rw [Varint.decodeAll, if_pos h]
      exact Meets.ok trivial
  | case2 bytes h failure hfails =>
      have hnumber : Meets (fun _ => True) NoMismatch (Varint.decode bytes) :=
        (meets_decodeFrom 0 0 bytes).map fun _ _ => trivial
      have hfault := hnumber.2 failure hfails
      rw [Varint.decodeAll, if_neg h]
      split
      case h_1 hsame => exact Meets.error (Except.error.inj (hfails.symm.trans hsame) ▸ hfault)
      case h_2 hread =>
        rw [hfails] at hread
        cases hread
  | case3 bytes h n rest hread ih =>
      rw [Varint.decodeAll, if_neg h]
      split
      case h_1 hfails =>
        rw [hread] at hfails
        cases hfails
      case h_2 m more hsame =>
        obtain ⟨rfl, rfl⟩ := Prod.mk.inj (Except.ok.inj (hread.symm.trans hsame))
        exact ih.map fun _ _ => trivial

/-- Numbers are read from their gaps, or these run over. -/
theorem meets_sumsAfter (previous : UInt32) (gaps : List UInt32) :
    Meets (fun _ => True) NoMismatch (Gaps.sumsAfter previous gaps) := by
  induction gaps generalizing previous with
  | nil => exact Meets.ok trivial
  | cons gap rest ih =>
      unfold Gaps.sumsAfter
      split
      · exact (ih _).map fun _ _ => trivial
      · exact Meets.error (by decide)

/-- Postings are read, or they are malformed. -/
theorem meets_decodePostings (bytes : Bytes) :
    Meets (fun _ => True) NoMismatch (PostingList.decode bytes) := by
  refine Meets.map (Q := fun _ => True) (Meets.bind (meets_decodeAll bytes) fun numbers _ _ => ?_)
    fun _ _ => trivial
  cases numbers with
  | nil => exact Meets.ok trivial
  | cons n rest => exact (meets_sumsAfter n rest).map fun _ _ => trivial

/-- A key that a number is read from ends with this number. -/
theorem meets_decodeTrailing (key front : Bytes) :
    Meets (fun n => key = front ++ encodeNumber n) NoMismatch (decodeTrailing key front) := by
  unfold decodeTrailing Store.Key.strip
  by_cases hfront : front.isPrefixOf key = true
  · rw [if_pos hfront]
    obtain ⟨rest, rfl⟩ := List.isPrefixOf_iff_prefix.1 hfront
    rw [List.drop_left]
    show Meets _ _ (if rest.length = 4 then .ok (UInt32.ofNat (Bytes.bigEndianValue rest))
      else .error (.malformedKey (front ++ rest)))
    split
    case isTrue hlength =>
      exact Meets.ok (by rw [encodeNumber, Bytes.bigEndian_bigEndianValue hlength])
    case isFalse => exact Meets.error (by simp [Failure.kind])
  · rw [if_neg hfront]
    exact Meets.error (e := .malformedKey key) (by simp [Failure.kind])

/-- A stored value is read, or it is malformed. -/
theorem meets_decodeValue (bytes : Bytes) :
    Meets (fun v => Value.decode bytes = .ok v) NoMismatch (Value.decode bytes) := by
  unfold Value.decode
  cases Value.decodeFront bytes with
  | ok result => exact Meets.ok rfl
  | error fault => exact Meets.error (by simp [Failure.kind])

/-- An attribute has keys, or it is no name. -/
theorem meets_attributePrefix (ns : Namespace) (table : Store.Table) (name : String) :
    Meets (fun front => ∃ n : Name, n.1 = name ∧
        front = Store.Key.tablePrefix ns table ++ (Text.Utf8.encode n.1 ++ [0]))
      NoMismatch (Store.Key.attributePrefix ns table name) := by
  by_cases h : isName name = true
  · rw [attributePrefix_eq ns ⟨name, h⟩]
    exact Meets.ok ⟨⟨name, h⟩, rfl, rfl⟩
  · rw [Store.Key.attributePrefix, checkName_error h]
    exact Meets.error (e := .invalidName name) (by simp [Failure.kind])

/-- The postings of a slot are looked for among entries. -/
theorem meets_takePostings (front : Bytes) (slot : UInt32) (entries : List (Bytes × Bytes)) :
    Meets (fun _ => True) NoMismatch (Tables.takePostings front slot entries) := by
  induction entries with
  | nil => exact Meets.ok trivial
  | cons entry rest ih =>
      refine Meets.bind (meets_decodeTrailing entry.1 front) fun other _ _ => ?_
      split
      · exact ih
      · split
        · exact Meets.bind (meets_decodePostings entry.2) fun _ _ _ => Meets.ok trivial
        · exact Meets.ok trivial

/-- Values are joined with their postings if their stored forms can be read. -/
theorem meets_join {Q : Value → Prop} {valueFront postingFront : Bytes}
    {stored : List (Bytes × Bytes)} (postings : List (Bytes × Bytes))
    (h : ∀ entry ∈ stored, ∀ slot v, entry.1 = valueFront ++ encodeNumber slot →
      Value.decode entry.2 = .ok v → Q v) :
    Meets (fun found => ∀ e ∈ found, Q e.value) NoMismatch
      (Tables.join valueFront postingFront stored postings) := by
  induction stored generalizing postings with
  | nil => exact Meets.ok nofun
  | cons entry rest ih =>
      obtain ⟨hentry, hrest⟩ := List.forall_mem_cons.1 h
      refine Meets.bind (meets_decodeTrailing entry.1 valueFront) fun slot _ hkey =>
        Meets.bind (meets_decodeValue entry.2) fun value _ hvalue =>
          Meets.bind (meets_takePostings postingFront slot postings) fun taken _ _ =>
            Meets.bind (ih taken.2 hrest) fun others _ hothers => Meets.ok ?_
      split
      · exact hothers
      · exact List.forall_mem_cons.2 ⟨hentry slot value hkey hvalue, hothers⟩

end Failures

/-! ## Values of one type -/

section Types

variable {P : Store → Prop} {ns : Namespace} {name type : String}

/-- What is stored as a value of the attribute has the type. -/
def valued (name type : String) : Rule := fun ns c entry =>
  ∀ n slot bytes v, ns = .context → c = .slotValue n slot → n.1 = name → entry = some bytes →
    Value.decode bytes = .ok v → v.typeName = type

/-- The type of the values of one attribute asks nothing of other cells. -/
theorem lenient_valued (name type : String) : Lenient (valued name type) where
  number _ _ _ _ _ _ _ _ hcell := nomatch hcell
  valueGone _ _ _ _ _ _ _ _ _ _ hentry := nomatch hentry
  others _ c hplain _ _ _ _ _ _ hcell := by
    subst hcell
    cases hplain

/-- A value of the type may be stored for the attribute, and any for others. -/
theorem valued_of_typeName {n : Name} {slot : UInt32} {v : Value}
    (h : n.1 = name → v.typeName = type) :
    valued name type ns (.slotValue n slot) (some v.encode) := by
  rintro n' slot' bytes w - hcell hname hentry hread
  obtain ⟨rfl, rfl⟩ := Cell.slotValue.inj hcell
  obtain rfl := Option.some.inj hentry
  rw [Value.typeName_of_decode hread, h hname]

/-- The values of an attribute are read from what is stored for its slots. -/
theorem yields_values_of {Q : Value → Prop} (hQ : ∀ s, P s → ∀ (n : Name) slot bytes v, n.1 = name →
      s.content.get? ((Cell.slotValue n slot).key ns) = some bytes →
      Value.decode bytes = .ok v → Q v) :
    Yields P (Tables.values ns name) (fun found => ∀ e ∈ found, Q e.value) NoMismatch := by
  refine Yields.lift_bind (meets_attributePrefix ns .slotValue name) fun front hfront =>
    Yields.lift_bind (meets_attributePrefix ns .slotPostings name) fun postingFront _ =>
      Yields.bind (Yields.inspect (Q := fun _ => True) fun _ _ => trivial) fun postings _ =>
        Yields.bind (Yields.inspect (Q := fun stored => ∃ s, P s ∧ stored = s.entriesFrom front)
          fun s hs => ⟨s, hs, rfl⟩) fun stored hstored => Yields.ofOutcome (meets_join postings ?_)
  obtain ⟨n, hname, rfl⟩ := hfront
  obtain ⟨s, hs, rfl⟩ := hstored
  intro entry hentry slot v hkey hread
  refine hQ s hs n slot entry.2 v hname ?_ hread
  have hcell : entry.1 = (Cell.slotValue n slot).key ns := by
    simpa [Cell.key, Cell.payload, Cell.table] using hkey
  rw [Store.entriesFrom_eq, ← OrderedMap.get?_eq_some_iff, OrderedMap.under,
    OrderedMap.get?_filterKeys] at hentry
  rw [← hcell]
  exact (Option.ite_none_right_eq_some.1 hentry).2

/-- The values of an attribute are read, whatever is stored, without comparing types. -/
theorem yields_values_any (ns : Namespace) (name : String) :
    Yields P (Tables.values ns name) (fun _ => True) NoMismatch :=
  (yields_values_of (Q := fun _ => True) fun _ _ _ _ _ _ _ _ _ => trivial).mono fun _ _ => trivial

/-- An attribute of one type is read as values of that type. -/
theorem yields_values (h : ∀ s, P s → Respects (valued name type) s) :
    Yields P (Tables.values .context name) (fun found => ∀ e ∈ found, e.value.typeName = type)
      NoMismatch :=
  yields_values_of (Q := fun v => v.typeName = type) fun s hs n slot bytes v hname hentry hread =>
    h s hs .context (.slotValue n slot) n slot bytes v rfl rfl hname hentry hread

/-- The shasums of stubs are read, or one is missing. -/
theorem yields_shasums (ns : Namespace) (indices : List UInt32) :
    Yields P (Tables.shasums ns indices) (fun _ => True) NoMismatch := by
  refine Yields.mapM_any fun index _ => Yields.bind (Q := fun _ => True) (fun s hs => ⟨hs, ?_⟩)
    fun _ _ => Yields.pure trivial
  show Meets _ _ (s.read _)
  rw [Store.read_eq]
  cases s.content.get? (Store.Key.stubShasum ns index) with
  | none => exact Meets.error (by simp [Failure.kind])
  | some bytes => exact Meets.ok trivial

end Types

end SiteIndex.Posting
