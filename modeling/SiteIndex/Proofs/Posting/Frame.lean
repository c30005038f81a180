import SiteIndex.Proofs.Posting.Keys
import SiteIndex.Proofs.Posting.Turns
import SiteIndex.Proofs.Posting.Writes

/-!
# What the operations of the tables leave alone

The operations of a namespace write keys of the namespace alone, and those on an attribute cells of
the attribute alone. So on any store, whatever it holds and whatever its driver makes of the writes,
the keys of the other namespace keep their entries through every sequence of operations
(`get?_afterSteps`) and are read as before (`read_afterSteps`), and so are the other attributes
after an operation on one (`values_after_change`). `cells_apart` puts this together with the keys
being apart.
-/

namespace SiteIndex.Posting

open SiteIndex.Action (Keeps)
open Store (AgreeOn Namespace OrderedMap Table)
open Store.Key (attributePrefix decodeName decodeTrailing tablePrefix)

/-! ## Steps -/

/-- What is read of the tables. -/
inductive TableRead where
  | ask (query : TableQuery)
  | shasums (indices : List UInt32)
  deriving DecidableEq

/-- The reading on a store. -/
def TableRead.result (ns : Namespace) : TableRead → Action Store Reply
  | ask query => query.result ns
  | shasums indices => do return .names (← Tables.shasums ns indices)

/-- What can be done with the tables of a namespace. -/
inductive TableStep where
  | perform (op : Op)
  | setSummary (shasum : String) (summary : Bytes)
  | removeSummary (shasum : String)
  | read (what : TableRead)
  deriving DecidableEq

namespace TableStep

/-- The step on a store, without its result. -/
def action (ns : Namespace) : TableStep → Action Store Unit
  | perform op => op.action ns
  | setSummary shasum summary => Tables.setSummary ns shasum summary
  | removeSummary shasum => Tables.removeSummary ns shasum
  | read what => do let _ ← what.result ns

/-- The store after a step, whether it goes well or not. -/
def after (ns : Namespace) (s : Store) (x : TableStep) : Store := ((x.action ns).run s).2

end TableStep

/-- The store after steps one after the other. -/
def afterSteps (ns : Namespace) (steps : List TableStep) (s : Store) : Store :=
  steps.foldl (TableStep.after ns) s

/-! ## What steps write -/

section Writing

variable {P : OrderedMap Bytes → Prop} {ns : Namespace}

/-- Nothing is written when the tables are read. -/
theorem TableRead.keeps_result {P : Store → Prop} (what : TableRead) :
    Keeps P (what.result ns) := by
  cases what with
  | shasums indices =>
      have hget : ∀ key, Keeps P (Store.get key) := fun _ _ hs => hs
      exact Keeps.bind (Keeps.mapM fun _ => Keeps.bind (hget _) fun _ => Keeps.pure _)
        fun _ => Keeps.pure _
  | ask query =>
      intro s hs
      show P ((query.result ns).run s).2
      rwa [(query.run_result rfl ns).2]

/-- A property that is kept whatever the cells of an attribute become is kept by the operations on
its values. -/
theorem Op.keeps_change {name : Name} {op : Op}
    (hop : ∃ value stub, op = .addValue name.1 value stub ∨ op = .removeValue name.1 value stub)
    (h : ∀ c : Cell, c.attribute = some name → ∀ entry, Permits P (c.key ns) entry) :
    Keeps (fun s => P s.content) (op.action ns) := by
  have hslots : ∀ n : Name, n.1 = name.1 → PermitsSlots P ns n := by
    intro n hn
    obtain rfl := Subtype.ext hn
    exact ⟨fun _ => h _ rfl, fun _ => h _ rfl, h _ rfl⟩
  have hvalue : ∀ (n : Name) slot, n.1 = name.1 →
      ∀ entry, Permits P ((Cell.slotValue n slot).key ns) entry := by
    intro n slot hn
    obtain rfl := Subtype.ext hn
    exact h _ rfl
  obtain ⟨value, stub, rfl | rfl⟩ := hop
  · exact Keeps.bind (keeps_addValue_of_permits hslots (fun n slot hn => hvalue n slot hn _) stub)
      fun _ => Keeps.pure ()
  · exact Keeps.bind
      (keeps_removeValue_of_permits hslots (fun n slot hn => hvalue n slot hn none) stub)
      fun _ => Keeps.pure ()

/-- A property that is kept whatever the keys of a namespace get is kept by every operation. -/
theorem Op.keeps_action (h : ∀ rest entry, Permits P (ns.byte :: rest) entry) (op : Op) :
    Keeps (fun s => P s.content) (op.action ns) := by
  have hcell : ∀ (c : Cell) entry, Permits P (c.key ns) entry := fun c => h _
  have hslots : ∀ n : Name, PermitsSlots P ns n :=
    fun n => ⟨fun _ => hcell _, fun _ => hcell _, hcell _⟩
  cases op with
  | ensureStub shasum =>
      exact Keeps.bind (keeps_ensureStub_of_permits shasum (fun _ => hcell _ _) (fun _ => hcell _)
        (hcell _)) fun _ => Keeps.pure ()
  | forgetStub shasum =>
      exact Keeps.bind (keeps_forgetStub_of_permits (hcell _ none) fun _ => hcell _ none)
        fun _ => Keeps.pure ()
  | addValue name value stub =>
      exact Keeps.bind (keeps_addValue_of_permits (fun n _ => hslots n) (fun _ _ _ => hcell _ _)
        stub) fun _ => Keeps.pure ()
  | removeValue name value stub =>
      exact Keeps.bind (keeps_removeValue_of_permits (fun n _ => hslots n)
        (fun _ _ _ => hcell _ none) stub) fun _ => Keeps.pure ()
  | addToken token stub =>
      exact Keeps.bind (keeps_addToken_of_permits stub fun _ _ => hcell _) fun _ => Keeps.pure ()
  | removeToken token stub =>
      exact Keeps.bind (keeps_removeToken_of_permits stub fun _ _ => hcell _) fun _ => Keeps.pure ()
  | clear =>
      exact Keeps.bind (keeps_clear_of_permits fun rest => h rest none) fun _ => Keeps.pure ()

/-- A property that is kept whatever the keys of a namespace get is kept by every step. -/
theorem TableStep.keeps_action (h : ∀ rest entry, Permits P (ns.byte :: rest) entry)
    (x : TableStep) : Keeps (fun s => P s.content) (x.action ns) := by
  cases x with
  | perform op => exact op.keeps_action h
  | setSummary shasum summary => exact keeps_set_of_permits (h _ _)
  | removeSummary shasum => exact keeps_delete_of_permits (h _ _)
  | read what => exact Keeps.bind what.keeps_result fun _ => Keeps.pure ()

/-- A property that is kept whatever the keys of a namespace get is kept by steps one after the
other. -/
theorem kept_afterSteps (h : ∀ rest entry, Permits P (ns.byte :: rest) entry)
    (steps : List TableStep) {s : Store} (hs : P s.content) :
    P (afterSteps ns steps s).content := by
  unfold afterSteps
  induction steps generalizing s with
  | nil => exact hs
  | cons x rest ih => exact ih (x.keeps_action h s hs)

/-- A key outside of a set keeps its entry when one in the set gets another. -/
theorem permits_outside {K : Bytes → Prop} {key : Bytes} (hkey : K key) (m : OrderedMap Bytes)
    (entry : Option Bytes) :
    Permits (fun m' => ∀ other, ¬ K other → m'.get? other = m.get? other) key entry := by
  intro m₁ m₂ hm₂ hm₁ other hother
  have hne : other ≠ key := by
    rintro rfl
    exact hother hkey
  rw [hm₂, if_neg hne, hm₁ other hother]

end Writing

/-! ## The other namespace -/

section Namespaces

variable {ns ns' : Namespace}

/-- Keys that are not of the namespace keep their entries through every sequence of steps. -/
theorem get?_afterSteps (steps : List TableStep) (s : Store) {key : Bytes} (hkey : ¬ ns.Owns key) :
    (afterSteps ns steps s).content.get? key = s.content.get? key :=
  kept_afterSteps (fun rest => permits_outside (K := ns.Owns) ⟨rest, rfl⟩ s.content) steps
    (fun _ _ => rfl) key hkey

/-- The keys of one namespace are not of the other. -/
theorem not_owns_of_ne (hne : ns' ≠ ns) {key : Bytes} (hkey : ns'.Owns key) : ¬ ns.Owns key := by
  rintro ⟨rest, hrest⟩
  obtain ⟨rest', rfl⟩ := hkey
  exact hne (byte_injective (List.cons.inj hrest).1)

/-- Stores that agree on a namespace are read alike. -/
theorem TableRead.lockstep_result {R : Store → Store → Prop}
    (hR : ∀ s t, R s t → AgreeOn ns.Owns s t) (what : TableRead) :
    Lockstep R (what.result ns) := by
  cases what with
  | ask query => exact query.lockstep_result hR
  | shasums indices =>
      exact Lockstep.bind (Lockstep.mapM fun index _ => lockstep_shasum hR index)
        fun _ => Lockstep.pure _

/-- The other namespace is read as before, after every sequence of steps. -/
theorem read_afterSteps (hne : ns' ≠ ns) (steps : List TableStep) (s : Store) (what : TableRead) :
    ((what.result ns').run (afterSteps ns steps s)).1 = ((what.result ns').run s).1 := by
  have hagree : AgreeOn ns'.Owns (afterSteps ns steps s) s :=
    fun key hkey => get?_afterSteps steps s (not_owns_of_ne hne hkey)
  exact (what.lockstep_result (R := AgreeOn ns'.Owns) (fun _ _ h => h) _ _ hagree).1

end Namespaces

/-! ## The other attributes -/

section Attributes

variable {ns : Namespace} {name other : Name} {op : Op}

/-- Keys that are of no cell of an attribute keep their entries when one of its values changes. -/
theorem get?_after_change
    (hop : ∃ value stub, op = .addValue name.1 value stub ∨ op = .removeValue name.1 value stub)
    (s : Store) {key : Bytes} (hkey : ∀ c : Cell, c.attribute = some name → key ≠ c.key ns) :
    ((op.action ns).run s).2.content.get? key = s.content.get? key :=
  Op.keeps_change hop
    (fun c hc => permits_outside (K := fun key => ∃ c : Cell, c.attribute = some name ∧
      key = c.key ns) ⟨c, hc, rfl⟩ s.content) s (fun _ _ => rfl) key
    fun ⟨c, hc, heq⟩ => hkey c hc heq

/-- No cell of an attribute is below a prefix of another, even if the name of one starts with the
name of the other. -/
theorem not_isPrefixOf_of_ne (hne : other ≠ name) {table : Table}
    (htable : perAttribute table = true) {c : Cell} (hc : c.attribute = some name) :
    ¬ (tablePrefix ns table ++ (Text.Utf8.encode other.1 ++ [0])).isPrefixOf (c.key ns) = true := by
  intro hfront
  obtain ⟨-, rfl, hrest⟩ := Cell.attributePrefix_isPrefixOf.1 hfront
  rw [attribute_iff_payload htable, hc, Option.some.injEq] at hrest
  exact hne hrest.symm

/-- What is below a prefix of an attribute stays when another is changed. -/
theorem agreeOn_after_change (hne : other ≠ name)
    (hop : ∃ value stub, op = .addValue name.1 value stub ∨ op = .removeValue name.1 value stub)
    {table : Table} (htable : perAttribute table = true) {front : Bytes}
    (hfront : attributePrefix ns table other.1 = .ok front) (s : Store) :
    AgreeOn (fun key => front.isPrefixOf key = true) ((op.action ns).run s).2 s := by
  obtain rfl := Except.ok.inj ((attributePrefix_eq ns other table).symm.trans hfront)
  intro key hkey
  refine get?_after_change hop s fun c hc heq => ?_
  exact not_isPrefixOf_of_ne hne htable hc (heq ▸ hkey)

/-- The values of an attribute are read as before after a change of another. -/
theorem values_after_change (hne : other ≠ name)
    (hop : ∃ value stub, op = .addValue name.1 value stub ∨ op = .removeValue name.1 value stub)
    (s : Store) :
    ((Tables.values ns other.1).run ((op.action ns).run s).2).1
      = ((Tables.values ns other.1).run s).1 := by
  let K : Bytes → Prop := fun key => ∃ table front, perAttribute table = true ∧
    attributePrefix ns table other.1 = .ok front ∧ front.isPrefixOf key = true
  have hagree : AgreeOn K ((op.action ns).run s).2 s := by
    rintro key ⟨table, front, htable, hfront, hkey⟩
    exact agreeOn_after_change hne hop htable hfront s key hkey
  have hlockstep : Lockstep (AgreeOn K) (Tables.values ns other.1) := by
    refine lockstep_values_of (fun _ _ h => h) fun table front htable hfront key hkey => ?_
    refine ⟨table, front, ?_, hfront, hkey⟩
    rcases htable with rfl | rfl <;> rfl
  exact (hlockstep _ _ hagree).1

end Attributes

/-! ## Entries apart -/

/-- Cells never share a key, whatever their names, hashes and numbers are, and what a key was made
of is read from it. A scan of a table or of an attribute finds the cells of that table or attribute
in that namespace and no others, in the order of their slots. Whatever a store holds, no sequence of
steps through one namespace changes an entry of the other or what is read of it, and no change of a
value of an attribute changes an entry of another attribute or its values. -/
theorem cells_apart :
    (∀ ns (c : Cell), c.build ns = .ok (c.key ns)) ∧
    (∀ ns ns' (c d : Cell), c.build ns = d.build ns' → ns = ns' ∧ c = d) ∧
    (∀ ns (c : Cell) text, c.text? = some text →
      decodeName (c.key ns) (tablePrefix ns c.table) = .ok text) ∧
    (∀ ns (c : Cell) name slot front, c.slot? = some (name, slot) →
      attributePrefix ns c.table name.1 = .ok front →
      decodeTrailing (c.key ns) front = .ok slot) ∧
    (∀ (s : Store) ns table ns' (c : Cell) value,
      (c.key ns', value) ∈ s.entriesFrom (tablePrefix ns table) ↔
        ns = ns' ∧ c.table = table ∧ s.content.get? (c.key ns') = some value) ∧
    (∀ (s : Store) ns table (name : Name) front, perAttribute table = true →
      attributePrefix ns table name.1 = .ok front →
        (∀ ns' (c : Cell) value, (c.key ns', value) ∈ s.entriesFrom front ↔
          ns = ns' ∧ c.table = table ∧ c.attribute = some name ∧
            s.content.get? (c.key ns') = some value) ∧
        (s.entriesFrom front).Pairwise fun a b => ∀ i j, decodeTrailing a.1 front = .ok i →
          decodeTrailing b.1 front = .ok j → i < j) ∧
    (∀ (s : Store) ns ns' steps, ns' ≠ ns →
      (∀ rest, (afterSteps ns steps s).content.get? (ns'.byte :: rest)
        = s.content.get? (ns'.byte :: rest)) ∧
      ∀ what : TableRead,
        ((what.result ns').run (afterSteps ns steps s)).1 = ((what.result ns').run s).1) ∧
    ∀ (s : Store) ns (name other : Name) (op : Op), other ≠ name →
      (∃ value stub, op = .addValue name.1 value stub ∨ op = .removeValue name.1 value stub) →
        (∀ key, (∀ c : Cell, c.attribute = some name → key ≠ c.key ns) →
          ((op.action ns).run s).2.content.get? key = s.content.get? key) ∧
        (∀ ns' (c : Cell), c.attribute = some other →
          ((op.action ns).run s).2.content.get? (c.key ns') = s.content.get? (c.key ns')) ∧
        (∀ table front, perAttribute table = true →
          attributePrefix ns table other.1 = .ok front →
          ((op.action ns).run s).2.entriesFrom front = s.entriesFrom front) ∧
        ((Tables.values ns other.1).run ((op.action ns).run s).2).1
          = ((Tables.values ns other.1).run s).1 := by
  refine ⟨Cell.build_eq, ?_, fun _ _ _ => Cell.decodeName_key,
    fun _ _ _ _ _ => Cell.decodeTrailing_key, fun _ _ _ _ _ _ => mem_scan_table, ?_, ?_, ?_⟩
  · intro ns ns' c d h
    rw [c.build_eq, d.build_eq] at h
    exact Cell.key_injective (Except.ok.inj h)
  · intro s ns table name front htable hfront
    exact ⟨fun _ _ _ => mem_scan_attribute htable hfront, scan_slots s front⟩
  · intro s ns ns' steps hne
    exact ⟨fun rest => get?_afterSteps steps s (not_owns_of_ne hne ⟨rest, rfl⟩),
      read_afterSteps hne steps s⟩
  · intro s ns name other op hne hop
    have hother : ∀ ns' (c : Cell), c.attribute = some other →
        ∀ d : Cell, d.attribute = some name → c.key ns' ≠ d.key ns := by
      intro ns' c hc d hd heq
      obtain rfl := (Cell.key_injective heq).2
      exact hne (Option.some.inj (hc.symm.trans hd))
    exact ⟨fun _ => get?_after_change hop s,
      fun ns' c hc => get?_after_change hop s (hother ns' c hc),
      fun table front htable hfront =>
        (agreeOn_after_change hne hop htable hfront s).entriesFrom_eq fun _ hkey => hkey,
      values_after_change hne hop s⟩

/-- On a store whose driver refuses a write, the words of the one index are read as before after the
other is cleared, and an attribute keeps its values when one whose name it goes on from loses its
own. -/
theorem cells_apart_filled :
    let words : List TableStep := [.perform (.addToken "home" 0), .setSummary "s" [0x63]]
    let values : List TableStep :=
      [.perform (.addValue "a" (.int 1) 0), .perform (.addValue "ab" (.int 2) 0)]
    let filled := afterSteps .context values (afterSteps .keyword words (hesitating [1]))
    let cleared := afterSteps .context [.perform .clear] filled
    let changed := (((Op.removeValue "a" (.int 1) 0).action .context).run filled).2
    ((Tables.tokens .keyword).run filled).1.toOption = some ["home"] ∧
      (((TableRead.ask .tokens).result .keyword).run cleared).1
        = (((TableRead.ask .tokens).result .keyword).run filled).1 ∧
      ((Tables.values .context "ab").run filled).1.toOption = some [⟨0, .int 2, ⟨[0]⟩⟩] ∧
      ((Tables.values .context "ab").run changed).1
        = ((Tables.values .context "ab").run filled).1 := by
  intro words values filled cleared changed
  obtain ⟨-, -, -, -, -, -, hnamespaces, hattributes⟩ := cells_apart
  obtain ⟨-, hread⟩ := hnamespaces filled .context .keyword [.perform .clear] (by decide)
  obtain ⟨-, -, -, hvalues⟩ := hattributes filled .context ⟨"a", by decide⟩ ⟨"ab", by decide⟩
    (.removeValue "a" (.int 1) 0) (by decide) ⟨.int 1, 0, .inr rfl⟩
  exact ⟨by decide +kernel, hread _, by decide +kernel, hvalues⟩

end SiteIndex.Posting
