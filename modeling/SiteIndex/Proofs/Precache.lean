import SiteIndex.Precache
import SiteIndex.Proofs.Index.Lockstep
import SiteIndex.Proofs.Site.InStep

/-!
# An index that is built anew

Filling an index with the pages of sites starts by emptying it. From there on every run over the
same sites does the same, whatever the store held before and whatever keeps it: it reports the same
and leaves the same entries in both indexes as over an empty store. Entries that belong to neither
stay as they are, and nothing is left waiting in a buffer (`runs_afresh`).
-/

namespace SiteIndex.Precache

open Page (Stub)
open Site (Indexer Visit askAll)
open Store (Abreast Agree Beside Flushed Owned OrderedMap Settled)

variable {τ : Type} {R : Store → Store → Prop} {m n : OrderedMap Bytes}

/-! ## Engines in lockstep -/

/-- The engines have stores in the relation, and are set up alike. -/
structure Likewise (R : Store → Store → Prop) (e f : Engine) : Prop where
  store : R e.store f.store
  formats : e.formats = f.formats
  readOnly : e.config.readOnly = f.config.readOnly

/-- The engines are likewise, and whatever goes with them is the same. -/
def Paired (R : Store → Store → Prop) (p q : Engine × τ) : Prop := Likewise R p.1 q.1 ∧ p.2 = q.2

section Engines

variable {α : Type}

/-- An action of the store is one of the engine. -/
theorem lockstep_onStore {x : Action Store α} (hx : Lockstep R x) :
    Lockstep (Likewise R) (Engine.onStore x) :=
  hx.within (fun _ _ h => h.store) fun _ _ _ _ h hstore => ⟨hstore, h.formats, h.readOnly⟩

/-- An action of the engine leaves alone what goes with it. -/
theorem lockstep_onFirst {x : Action Engine α} (hx : Lockstep (Likewise R) x) :
    Lockstep (Paired (τ := τ) R) x.onFirst :=
  hx.within (fun _ _ h => h.1) fun _ _ _ _ h he => ⟨he, h.2⟩

/-- Engines take up a page in lockstep. -/
theorem lockstep_add (stub : Stub) (page : Page) :
    Lockstep (Likewise (Abreast m n)) (Engine.indexer.add stub page) := by
  refine Lockstep.bind (Lockstep.inspect fun _ _ h => h.readOnly) fun readOnly => ?_
  cases readOnly with
  | true => exact Lockstep.pure ()
  | false =>
      have hwords : Lockstep (Likewise (Abreast m n)) (Engine.addKeywords stub page) :=
        Lockstep.bind (Lockstep.inspect fun _ _ h => h.formats) fun formats =>
          lockstep_onStore (Index.lockstep_addWords formats stub page)
      exact Lockstep.bind (lockstep_onStore (Index.lockstep_add stub page)) fun _ =>
        Lockstep.bind hwords fun _ => Lockstep.pure ()

end Engines

/-! ## Rebuilds in lockstep -/

section Rebuilds

variable {σ : Type} {P : σ → σ → Prop} {indexers : List (Indexer σ)}

/-- Indexers are asked one after the other. -/
theorem lockstep_askAll (stub : Stub) {ask : Indexer σ → Action σ Unit}
    (hask : ∀ indexer ∈ indexers, Lockstep P (ask indexer)) (report : Site.Report) :
    Lockstep P (askAll stub ask indexers report) := by
  induction indexers generalizing report with
  | nil => exact Lockstep.pureState _
  | cons indexer rest ih =>
      have hrest := ih fun other hother => hask other (List.mem_cons_of_mem _ hother)
      refine Lockstep.bindState (hask indexer (List.mem_cons_self ..)) fun out => ?_
      cases out with
      | ok done => exact hrest report
      | error failure =>
          exact Lockstep.bindState (hrest _) fun _ => Lockstep.pureState _

/-- What is come upon is taken up. -/
theorem lockstep_perform
    (hadd : ∀ indexer ∈ indexers, ∀ stub page, Lockstep P (indexer.add stub page))
    (p : Site.Progress) (visit : Visit) : Lockstep P (visit.perform indexers p) := by
  cases visit with
  | fault mount path failure => exact Lockstep.pureState _
  | files count => exact Lockstep.pureState _
  | entry stub page =>
      exact Lockstep.bindState
        (lockstep_askAll stub (fun indexer h => hadd indexer h stub page) _) fun _ =>
          Lockstep.pureState _

/-- A site is rebuilt from no catalog, so that no page is gone. -/
theorem lockstep_rebuild
    (hadd : ∀ indexer ∈ indexers, ∀ stub page, Lockstep P (indexer.add stub page)) (site : Site) :
    Lockstep P (site.rebuild indexers {}) := by
  rw [Site.rebuild_eq]
  refine Lockstep.bindState (Lockstep.foldlM (lockstep_perform hadd) _ _) fun p => ?_
  exact Lockstep.bindState (Lockstep.pureState p) fun _ => Lockstep.pureState _

/-- The pages of sites are handed over. -/
theorem lockstep_drain (sites : List Site) (report : Report) :
    Lockstep (Paired (Abreast m n)) (drain (sites.map (Provider.ofSite (τ := τ))) report) := by
  induction sites generalizing report with
  | nil => exact Lockstep.pure report
  | cons site rest ih =>
      have hprovide : Lockstep (Paired (Abreast m n)) (Provider.ofSite (τ := τ) site).provide := by
        refine Lockstep.bindState (lockstep_rebuild ?_ site) fun _ => Lockstep.pureState _
        simp only [List.forall_mem_singleton]
        exact fun stub page => lockstep_onFirst (lockstep_add stub page)
      exact Lockstep.bind hprovide fun _ => ih _

end Rebuilds

/-! ## Filling from nothing -/

/-- The store refuses no write, has nothing under owned keys, and has the entries of the map under
the others. -/
structure Cleared (m : OrderedMap Bytes) (s : Store) : Prop extends Beside m s where
  owned : ∀ key, Owned key → s.content.get? key = none

/-- Cleared stores are abreast. -/
theorem Cleared.abreast {s t : Store} (hs : Cleared m s) (ht : Cleared n t) : Abreast m n s t where
  left := hs.toBeside
  right := ht.toBeside
  agree key hkey := (hs.owned key hkey).trans (ht.owned key hkey).symm

/-- Emptying an engine clears its store. -/
theorem run_clear {e : Engine} (h : e.store.Reliable) :
    ∃ s, Engine.clear.run e = (.ok (), { e with store := s }) ∧ Cleared e.store.content s := by
  obtain ⟨⟨count, hout⟩, hrel, hget⟩ := Store.run_clear h .context
  have hattributes : ((Engine.onStore Index.Attributes.clear).run e).1 = .ok count := hout
  set s := ((Posting.Tables.clear .context).run e.store).2
  obtain ⟨⟨count', hout'⟩, hrel', hget'⟩ := Store.run_clear hrel .keyword
  have hkeywords : ((Engine.onStore Index.Keywords.clear).run { e with store := s }).1
      = .ok count' := hout'
  refine ⟨((Posting.Tables.clear .keyword).run s).2, ?_, ⟨hrel', fun key hkey => ?_⟩,
    fun key hkey => ?_⟩
  · exact (Action.run_bind_of_ok hattributes).trans (Action.run_bind_of_ok hkeywords)
  · have hcontext : ¬ (Store.Key.namespacePrefix .context).isPrefixOf key = true :=
      fun h => hkey (Store.owned_iff.2 ⟨_, h⟩)
    have hkeyword : ¬ (Store.Key.namespacePrefix .keyword).isPrefixOf key = true :=
      fun h => hkey (Store.owned_iff.2 ⟨_, h⟩)
    rw [hget', if_neg hkeyword, hget, if_neg hcontext]
  · rw [hget', hget]
    obtain ⟨ns, hns⟩ := Store.owned_iff.1 hkey
    cases ns with
    | context => rw [if_pos hns, ite_self]
    | keyword => rw [if_pos hns]

/-- After the pages have been handed over everything is written out. -/
theorem run_writeOut {e : Engine} (h : e.store.Reliable) (report : Report) (rest : τ) :
    ∃ s, (do
        engineTarget.flush
        engineTarget.compact
        return report : Action (Engine × τ) Report).run (e, rest)
      = (.ok report, ({ e with store := s }, rest)) ∧ Flushed e.store s := by
  obtain ⟨hflush, hflushed⟩ := Store.run_flush h
  obtain ⟨hcompact, hcompacted⟩ := Store.run_compact hflushed.reliable
  set s := (Store.flush.run e.store).2
  refine ⟨(Store.compact.run s).2, ?_, hcompacted.reliable,
    hcompacted.content.trans hflushed.content, hcompacted.settled⟩
  have hfirst : (engineTarget.flush.run (e, rest)).1 = .ok () := hflush
  have hsecond : (engineTarget.compact.run ({ e with store := s }, rest)).1 = .ok () := hcompact
  exact (Action.run_bind_of_ok hfirst).trans (Action.run_bind_of_ok hsecond)

/-- Sites always hand over their pages. -/
theorem exists_drain (sites : List Site) (report : Report) (p : Engine × τ) :
    ∃ total, ((drain (sites.map Provider.ofSite) report).run p).1 = .ok total := by
  induction sites generalizing report p with
  | nil => exact ⟨report, rfl⟩
  | cons site rest ih =>
      have hprovide : ((Provider.ofSite site).provide.run p).1
          = .ok ((site.rebuild [Engine.indexer.onFirst] {}).run p).run.1.1 := rfl
      obtain ⟨total, htotal⟩ := ih _ ((Provider.ofSite site).provide.run p).2
      refine ⟨total, ?_⟩
      rw [List.map_cons, drain, Action.run_bind_of_ok hprovide]
      exact htotal

/-- An engine is filled from a cleared store, and written out in the end. -/
theorem run_refill (providers : List (Provider (Engine × τ))) {e : Engine} (rest : τ)
    (he : e.store.Reliable) :
    ∃ s, Cleared e.store.content s ∧
      let drained := (drain providers {}).run ({ e with store := s }, rest)
      ∀ report, drained.1 = .ok report → drained.2.1.store.Reliable →
        ∃ s', Flushed drained.2.1.store s' ∧ (refill engineTarget providers).run (e, rest)
          = (.ok report, ({ drained.2.1 with store := s' }, drained.2.2)) := by
  obtain ⟨s, hclear, hcleared⟩ := run_clear he
  refine ⟨s, hcleared, fun report hreport hrel => ?_⟩
  obtain ⟨s', hout, hflushed⟩ := run_writeOut hrel report
    ((drain providers {}).run ({ e with store := s }, rest)).2.2
  refine ⟨s', hflushed, ?_⟩
  have hempty : engineTarget.clear.run (e, rest) = (.ok (), ({ e with store := s }, rest)) :=
    congrArg (fun result => (result.1, (result.2, rest))) hclear
  have hfirst : (engineTarget.clear.run (e, rest)).1 = .ok () := congrArg Prod.fst hempty
  rw [refill, Action.run_bind_of_ok hfirst, hempty, Action.run_bind_of_ok hreport]
  exact hout

/-- Providers of sites do nothing when they are started or shut down. -/
theorem run_fill (sites : List Site) (p : Engine × τ) :
    (fill engineTarget (sites.map Provider.ofSite)).run p
      = (refill engineTarget (sites.map Provider.ofSite)).run p := by
  have hstart : ∀ (rest front : List Site) (p : Engine × τ),
      (startAll (front.map Provider.ofSite) (rest.map Provider.ofSite)).run p
        = (((rest.reverse ++ front).map Provider.ofSite, .ok ()), p) := by
    intro rest
    induction rest with
    | nil => exact fun _ _ => rfl
    | cons site rest ih =>
        intro front p
        refine (ih (site :: front) p).trans ?_
        rw [List.reverse_cons, List.append_assoc, List.singleton_append]
  have hstop : ∀ (started : List Site) (p : Engine × τ),
      (stopAll (started.map Provider.ofSite)).run p = ((), p) := by
    intro started
    induction started with
    | nil => exact fun _ => rfl
    | cons site rest ih => exact ih
  have hstarted := hstart sites [] p
  rw [List.append_nil] at hstarted
  show ((startAll [] (sites.map Provider.ofSite) >>= _ : StateM _ _).run p).run = _
  rw [StateT.run_bind, show (startAll [] (sites.map Provider.ofSite)).run p = _ from hstarted]
  have hstopped := hstop sites.reverse
    ((refill engineTarget (sites.map (Provider.ofSite (τ := τ)))).run p).2
  exact congrArg (fun result => (_, result.2)) hstopped

/-- Both stores have been filled: they are abreast, and nothing waits. -/
structure Filled (m n : OrderedMap Bytes) (s t : Store) : Prop extends Abreast m n s t where
  leftSettled : s.Settled
  rightSettled : t.Settled

/-- Two engines that are filled with the pages of the same sites report the same and are filled
alike, whatever they held before. -/
theorem exists_refilled (sites : List Site) {e f : Engine} (rest : τ) (he : e.store.Reliable)
    (hf : f.store.Reliable) (hformats : e.formats = f.formats)
    (hreadOnly : e.config.readOnly = f.config.readOnly) :
    let providers := sites.map (Provider.ofSite (τ := τ))
    ∃ report p q, (refill engineTarget providers).run (e, rest) = (.ok report, p) ∧
      (refill engineTarget providers).run (f, rest) = (.ok report, q) ∧
      Paired (Filled e.store.content f.store.content) p q := by
  intro providers
  obtain ⟨s, hs, hfilled⟩ := run_refill providers rest he
  obtain ⟨t, ht, hfilled'⟩ := run_refill providers rest hf
  have hstart : Paired (Abreast e.store.content f.store.content)
      ({ e with store := s }, rest) ({ f with store := t }, rest) :=
    ⟨⟨hs.abreast ht, hformats, hreadOnly⟩, rfl⟩
  obtain ⟨hsame, hlikewise, hrest⟩ := lockstep_drain sites {} _ _ hstart
  obtain ⟨report, hreport⟩ := exists_drain sites {} ({ e with store := s }, rest)
  obtain ⟨s', hs', hrun⟩ := hfilled report hreport hlikewise.store.left.reliable
  obtain ⟨t', ht', hrun'⟩ := hfilled' report (hsame.symm.trans hreport)
    hlikewise.store.right.reliable
  exact ⟨report, _, _, hrun, hrun', ⟨⟨hlikewise.store.flushed hs' ht', hs'.settled, ht'.settled⟩,
    hlikewise.formats, hlikewise.readOnly⟩, hrest⟩

/-! ## Counting -/

/-- Counting takes the number of the names of an index. -/
theorem lockstep_count {names : Action Store (List String)} (hnames : Lockstep R names) :
    Lockstep (Paired (τ := τ) R) (List.length <$> Engine.onStore names).onFirst := by
  refine lockstep_onFirst ?_
  rw [map_eq_pure_bind]
  exact Lockstep.bind (lockstep_onStore hnames) fun _ => Lockstep.pure _

/-- Engines whose stores agree count the same. -/
theorem lockstep_counts (hR : ∀ s t, R s t → Agree s t) (report : Report) :
    Lockstep (Paired (τ := τ) R) (do
      return { report with
        keywords := ← engineTarget.keywords, attributes := ← engineTarget.attributes } :
          Action (Engine × τ) Report) :=
  Lockstep.bind (lockstep_count (Posting.lockstep_tokens fun s t h => (hR s t h).on _)) fun _ =>
    Lockstep.bind (lockstep_count (Posting.lockstep_attributes fun s t h => (hR s t h).on _))
      fun _ => Lockstep.pure _

/-- Two engines that are filled with the pages of the same sites and counted report the same and are
filled alike, whatever they held before. -/
theorem paired_fillAndCount (sites : List Site) {e f : Engine} (rest : τ) (he : e.store.Reliable)
    (hf : f.store.Reliable) (hformats : e.formats = f.formats)
    (hreadOnly : e.config.readOnly = f.config.readOnly) :
    let providers := sites.map (Provider.ofSite (τ := τ))
    let result := (fillAndCount engineTarget providers).run (e, rest)
    let other := (fillAndCount engineTarget providers).run (f, rest)
    result.1 = other.1 ∧
      Paired (Filled e.store.content f.store.content) result.2 other.2 := by
  intro providers result other
  obtain ⟨report, p, q, hrun, hrun', hpaired⟩ := exists_refilled sites rest he hf hformats hreadOnly
  have hfirst : ((fill engineTarget providers).run (e, rest)) = (.ok report, p) :=
    (run_fill sites (e, rest)).trans hrun
  have hsecond : ((fill engineTarget providers).run (f, rest)) = (.ok report, q) :=
    (run_fill sites (f, rest)).trans hrun'
  have hresult : result = _ := Action.run_bind_of_ok (congrArg Prod.fst hfirst)
  have hother : other = _ := Action.run_bind_of_ok (congrArg Prod.fst hsecond)
  rw [hresult, hother, hfirst, hsecond]
  exact lockstep_counts (fun s t h => h.agree) report p q hpaired

/-! ## Building anew -/

/-- The driver has everything: in the indexes what that of the other store has there, and the
entries of the map under keys that are not of an index. -/
structure Afresh (old : OrderedMap Bytes) (s fresh : Store) : Prop where
  settled : s.Settled
  indexed : ∀ ns, s.driver.entries.under (Store.Key.namespacePrefix ns)
    = fresh.driver.entries.under (Store.Key.namespacePrefix ns)
  others : ∀ key, (∀ ns, (Store.Key.namespacePrefix ns).isPrefixOf key = false) →
    s.driver.entries.get? key = old.get? key

/-- Stores that have been filled have the same in the indexes. -/
theorem Filled.afresh {s t : Store} (h : Filled m n s t) : Afresh m s t where
  settled := h.leftSettled
  indexed ns := by
    refine OrderedMap.ext_get? fun key => ?_
    rw [h.leftSettled.entries_eq, h.rightSettled.entries_eq, OrderedMap.under, OrderedMap.under,
      OrderedMap.get?_filterKeys, OrderedMap.get?_filterKeys]
    split
    case isTrue hprefix => exact h.agree key (Store.owned_iff.2 ⟨ns, hprefix⟩)
    case isFalse => rfl
  others key hkey := by
    rw [h.leftSettled.entries_eq]
    refine h.left.others key fun howned => ?_
    obtain ⟨ns, hns⟩ := Store.owned_iff.1 howned
    rw [hkey ns] at hns
    cases hns

/-- What a configuration starts from: the entries of its file, if it keeps one. -/
def startOf (config : Config) (stored : OrderedMap Bytes) : OrderedMap Bytes :=
  if config.backend.isFileBacked then stored else ∅

/-- A configuration with which an engine can be opened has a store that refuses no write. -/
theorem exists_openStore {config : Config} (hvalid : config.validate = .ok ())
    (stored : OrderedMap Bytes) :
    ∃ s, (configOf config).openStore stored = .ok s ∧ s.Holds (startOf config stored) := by
  have hvalid' : (configOf config).validate = .ok () := hvalid
  unfold Config.openStore startOf
  rw [hvalid']
  cases hbacked : config.backend.isFileBacked with
  | false =>
      have hplain : (configOf config).backend.isFileBacked = false := hbacked
      rw [hplain]
      exact ⟨_, rfl, ⟨rfl, fun _ => rfl⟩, rfl⟩
  | true =>
      have hfile : (configOf config).backend.isFileBacked = true := hbacked
      rw [hfile]
      exact ⟨_, rfl, ⟨rfl, fun _ => rfl⟩, rfl⟩

/-- What can be opened in a file can be opened in memory. -/
theorem validate_memory {config : Config} (hvalid : config.validate = .ok ()) :
    ({ config with backend := .memory } : Config).validate = .ok () := by
  unfold Config.validate at hvalid ⊢
  split at hvalid
  case isTrue => cases hvalid
  case isFalse =>
    rw [if_neg (by simp [Store.BackendKind.isFileBacked])]
    exact hvalid

/-- A run fills the store of its configuration and closes it. -/
theorem run_eq {config : Config} {stored : OrderedMap Bytes} {s : Store}
    (hopen : (configOf config).openStore stored = .ok s)
    (providers : List (Provider (Engine × τ))) (rest : τ) :
    let result := (fillAndCount engineTarget providers).run
      (Engine.ofStore (configOf config) s, rest)
    run config stored providers rest = (result.1, result.2.2, result.2.1.close) := by
  intro result
  rw [run, Engine.ofConfig, hopen]
  rfl

/-- A store in which nothing waits is closed with what its driver has. -/
theorem close_of_settled {s : Store} (h : s.Settled) : s.close.entries = s.driver.entries := by
  cases s with
  | plain d => rfl
  | buffered b =>
      have hempty : b.pending.isEmpty = true := h
      show b.drain.2.driver.entries = _
      rw [Store.Buffered.drain, if_pos hempty]
      rfl

/-- Whatever a store holds or has still waiting, be it plain or behind a buffer of any size, as long
as it refuses no write: filling an index with the pages of sites reports the same as over an empty
store. Afterwards nothing waits, the indexes have the same entries as after the run over the empty
store, and all other entries are as they were. So a run of any configuration does what a run in
memory does, and keeps what else its file holds. -/
theorem runs_afresh (sites : List Site) (rest : τ) :
    let providers := sites.map (Provider.ofSite (τ := τ))
    (∀ e fresh : Engine, e.store.Reliable → fresh.store.Holds ∅ → e.formats = fresh.formats →
      e.config.readOnly = fresh.config.readOnly →
        let result := (fillAndCount engineTarget providers).run (e, rest)
        let first := (fillAndCount engineTarget providers).run (fresh, rest)
        result.1 = first.1 ∧ Afresh e.store.content result.2.1.store first.2.1.store) ∧
    ∀ (config : Config) (stored : OrderedMap Bytes), config.validate = .ok () →
      let result := run config stored providers rest
      let first := run { config with backend := .memory } ∅ providers rest
      result.1 = first.1 ∧
        (∀ ns, result.2.2.under (Store.Key.namespacePrefix ns)
          = first.2.2.under (Store.Key.namespacePrefix ns)) ∧
        ∀ key, (∀ ns, (Store.Key.namespacePrefix ns).isPrefixOf key = false) →
          result.2.2.get? key = (startOf config stored).get? key := by
  intro providers
  constructor
  · intro e fresh hreliable hempty hformats hreadOnly result first
    obtain ⟨hsame, hpaired, -⟩ :=
      paired_fillAndCount sites rest hreliable hempty.1 hformats hreadOnly
    exact ⟨hsame, hpaired.store.afresh⟩
  · intro config stored hvalid result first
    have hvalid' : ({ config with backend := .memory } : Config).validate = .ok () :=
      validate_memory hvalid
    obtain ⟨s, hopen, hs, hcontent⟩ := exists_openStore hvalid stored
    obtain ⟨t, hopen', ht, -⟩ := exists_openStore hvalid' ∅
    obtain ⟨hsame, hpaired, -⟩ := paired_fillAndCount sites rest
      (e := Engine.ofStore (configOf config) s)
      (f := Engine.ofStore (configOf { config with backend := .memory }) t) hs ht rfl rfl
    have hafresh := hpaired.store.afresh
    have hresult : result = _ := run_eq hopen providers rest
    have hfirst : first = _ := run_eq hopen' providers rest
    rw [hresult, hfirst]
    refine ⟨hsame, fun ns => ?_, fun key hkey => ?_⟩
    · show (Store.close _).entries.under _ = (Store.close _).entries.under _
      rw [close_of_settled hpaired.store.leftSettled, close_of_settled hpaired.store.rightSettled]
      exact hafresh.indexed ns
    · show (Store.close _).entries.get? key = _
      rw [close_of_settled hpaired.store.leftSettled, ← hcontent]
      exact hafresh.others key hkey

/-- A buffer in front of a file with an entry of the index of attributes and another one; a third
entry waits. -/
def littered : Store.Buffered where
  driver :=
    { Store.Driver.ofBackend .sqlite false with
      entries := (OrderedMap.insert [0x63, 0x09] [1] ∅).insert [0xFF] [2] }
  pending := OrderedMap.insert [0xFE] (some [3]) ∅
  batchSize := 2
  compactEvery := 3

/-- The page of one file is indexed over such a store as over an empty one, and the entries stay
that are not of an index. -/
theorem runs_afresh_littered :
    let providers := [Site.plainLayout.site Site.drafted.files].map (Provider.ofSite (τ := Unit))
    let result := (fillAndCount engineTarget providers).run
      (Engine.ofStore {} (.buffered littered), ())
    let first := (fillAndCount engineTarget providers).run
      (Engine.ofStore {} (.plain (.ofBackend .memory false)), ())
    let stored := run { backend := .sqlite, storagePath := some "index" } littered.driver.entries
      providers ()
    result.1 = first.1 ∧ result.2.1.store.driver.entries.get? [0xFF] = some [2] ∧
      result.2.1.store.driver.entries.get? [0xFE] = some [3] ∧
      stored.2.2.get? [0xFF] = some [2] := by
  have hforeign : ∀ byte ∈ [0xFF, 0xFE], ∀ ns,
      (Store.Key.namespacePrefix ns).isPrefixOf [byte] = false := by
    intro byte hbyte ns
    rw [List.mem_cons, List.mem_singleton] at hbyte
    obtain rfl | rfl := hbyte
    · cases ns <;> rfl
    · cases ns <;> rfl
  -- The sites are left open, so that no run is evaluated.
  generalize [Site.plainLayout.site Site.drafted.files] = sites
  obtain ⟨hfilled, hrun⟩ := runs_afresh sites ()
  obtain ⟨hsame, hafresh⟩ := hfilled (Engine.ofStore {} (.buffered littered))
    (Engine.ofStore {} (.plain (.ofBackend .memory false))) ⟨rfl, fun _ => rfl⟩
    (Store.holds_plain .memory) rfl rfl
  obtain ⟨-, -, hothers⟩ := hrun { backend := .sqlite, storagePath := some "index" }
    littered.driver.entries rfl
  refine ⟨hsame, ?_, ?_, ?_⟩
  · exact (hafresh.others [0xFF] (hforeign _ (by decide))).trans (by decide)
  · exact (hafresh.others [0xFE] (hforeign _ (by decide))).trans (by decide)
  · exact (hothers [0xFF] (hforeign _ (by decide))).trans (by decide)

end SiteIndex.Precache
