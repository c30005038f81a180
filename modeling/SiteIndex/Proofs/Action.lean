import SiteIndex.Action

/-!
# Actions on what a state stands for

`x.Takes R v out w` says what an action does in terms of the meaning of states: from every state
that stands for `v` under `R` it comes to the outcome `out` and leaves a state that stands for
`w`. The rules below follow the way actions are put together, so that a composed action is
described by the descriptions of its parts.
-/

namespace SiteIndex.Action

variable {σ ν α β : Type} {R : σ → ν → Prop}

/-- An action that goes well hands its result and its state on. -/
theorem run_bind_of_ok {x : Action σ α} {f : α → Action σ β} {s : σ} {a : α}
    (h : (x.run s).1 = .ok a) : (x >>= f).run s = (f a).run (x.run s).2 := by
  change ExceptT.bindCont f (x.run s).1 (x.run s).2 = _
  rw [h]
  rfl

/-- An action that fails ends what it is part of. -/
theorem run_bind_of_error {x : Action σ α} {f : α → Action σ β} {s : σ} {e : Failure}
    (h : (x.run s).1 = .error e) : (x >>= f).run s = (.error e, (x.run s).2) := by
  change ExceptT.bindCont f (x.run s).1 (x.run s).2 = _
  rw [h]
  rfl

/-- What goes well to the end goes well at its start. -/
theorem run_of_bind_ok {x : Action σ α} {f : α → Action σ β} {s : σ} {b : β}
    (h : ((x >>= f).run s).1 = .ok b) :
    ∃ a, (x.run s).1 = .ok a ∧ (x >>= f).run s = (f a).run (x.run s).2 := by
  cases hx : (x.run s).1 with
  | ok a => exact ⟨a, rfl, run_bind_of_ok hx⟩
  | error e =>
      rw [run_bind_of_error hx] at h
      cases h

/-- What holds after an action and is kept by what comes next holds in the end, also if the action
fails. -/
theorem run_bind_induction {P : σ → Prop} {x : Action σ α} {f : α → Action σ β} {s : σ}
    (hx : P (x.run s).2) (hf : ∀ a s, P s → P ((f a).run s).2) : P ((x >>= f).run s).2 := by
  cases hout : (x.run s).1 with
  | ok a =>
      rw [run_bind_of_ok hout]
      exact hf a _ hx
  | error e =>
      rw [run_bind_of_error hout]
      exact hx

/-- Two actions go well if the first does and then the second. -/
theorem run_seq_ok_iff {x y : Action σ Unit} {s : σ} :
    ((do x; y : Action σ Unit).run s).1 = .ok () ↔
      (x.run s).1 = .ok () ∧ (y.run (x.run s).2).1 = .ok () := by
  constructor
  · intro h
    obtain ⟨⟨⟩, hx, hy⟩ := run_of_bind_ok h
    exact ⟨hx, hy ▸ h⟩
  · rintro ⟨hx, hy⟩
    rwa [run_bind_of_ok hx]

/-! ## Loops -/

section Loops

variable {f : α → Action σ Unit} {s : σ}

/-- A loop over two lists is a loop over one and then over the other. -/
theorem forM_append (f : α → Action σ Unit) (front back : List α) :
    (front ++ back).forM f = (do front.forM f; back.forM f) := List.forM_append

/-- Actions that have gone well are followed by more of them. -/
theorem run_forM_append {front : List α} (h : ((front.forM f).run s).1 = .ok ())
    (back : List α) :
    ((front ++ back).forM f).run s = (back.forM f).run ((front.forM f).run s).2 := by
  rw [forM_append, run_bind_of_ok h]

/-- Actions go well if those at the front do and then those behind them. -/
theorem forM_append_ok_iff {front back : List α} :
    (((front ++ back).forM f).run s).1 = .ok () ↔
      ((front.forM f).run s).1 = .ok () ∧
        ((back.forM f).run ((front.forM f).run s).2).1 = .ok () := by
  rw [forM_append]
  exact run_seq_ok_iff

/-- A single action as a loop. -/
theorem run_forM_singleton (f : α → Action σ Unit) (a : α) (s : σ) :
    (([a] : List α).forM f).run s = (f a).run s := by
  show ((do f a; pure ()) : Action σ Unit).run s = _
  rw [bind_pure_unit]

/-- What holds before actions and is kept by each of them holds after them if they all go well. -/
theorem forM_induction {motive : List α → σ → Prop} {items : List α}
    (hstep : ∀ front a s, front ++ [a] <+: items → motive front s → ((f a).run s).1 = .ok () →
      motive (front ++ [a]) ((f a).run s).2)
    (hstart : motive [] s) (hok : ((items.forM f).run s).1 = .ok ()) :
    motive items ((items.forM f).run s).2 := by
  have hmore : ∀ (back front : List α) (s : σ), front ++ back = items → motive front s →
      ((back.forM f).run s).1 = .ok () → motive items ((back.forM f).run s).2 := by
    intro back
    induction back with
    | nil =>
        intro front s hitems h _
        rw [List.append_nil] at hitems
        exact hitems ▸ h
    | cons a rest ih =>
        intro front s hitems h hok
        have hitems' : front ++ [a] ++ rest = items := by simpa using hitems
        obtain ⟨⟨⟩, ha, hrest⟩ := run_of_bind_ok hok
        have hrun : ((a :: rest).forM f).run s = (rest.forM f).run ((f a).run s).2 := hrest
        rw [hrun] at hok ⊢
        exact ih (front ++ [a]) _ hitems' (hstep front a s ⟨rest, hitems'⟩ h ha) hok
  exact hmore items [] s rfl hstart hok

end Loops

/-! ## What actions do -/

/-- From every state that stands for `v` the action comes to `out` and leaves a state that stands
for `w`. -/
def Takes (R : σ → ν → Prop) (x : Action σ α) (v : ν) (out : Outcome α) (w : ν) : Prop :=
  ∀ s, R s v → (x.run s).1 = out ∧ R (x.run s).2 w

namespace Takes

variable {x : Action σ α} {f : α → Action σ β} {u v w : ν}

/-- A plain result leaves the state alone. -/
theorem pure (a : α) : Takes R (Pure.pure a : Action σ α) v (.ok a) v := fun _ h => ⟨rfl, h⟩

/-- An action that goes well is followed by what comes after it. -/
theorem bind {a : α} {out : Outcome β} (hx : Takes R x u (.ok a) v)
    (hf : Takes R (f a) v out w) : Takes R (x >>= f) u out w := by
  intro s hs
  obtain ⟨hout, hv⟩ := hx s hs
  rw [run_bind_of_ok hout]
  exact hf _ hv

/-- An action that fails ends what it is part of. -/
theorem bind_error {e : Failure} (hx : Takes R x u (.error e) v) :
    Takes R (x >>= f) u (.error e) v := by
  intro s hs
  obtain ⟨hout, hv⟩ := hx s hs
  rw [run_bind_of_error hout]
  exact ⟨rfl, hv⟩

/-- Actions that leave the meaning of the state alone have the outcomes that their parts have one
after the other. -/
theorem bind_outcome {out : Outcome α} {g : α → Outcome β} (hx : Takes R x v out v)
    (hf : ∀ a, out = .ok a → Takes R (f a) v (g a) v) : Takes R (x >>= f) v (out >>= g) v := by
  cases out with
  | error e => exact bind_error hx
  | ok a => exact bind hx (hf a rfl)

/-- An outcome that is found without the state leaves the state alone. -/
theorem lift (out : Outcome α) : Takes R (liftM out : Action σ α) v out v := fun _ h => ⟨rfl, h⟩

/-- An outcome that is found without the state leaves the state alone. -/
theorem ofOutcome (out : Outcome α) : Takes R (Action.ofOutcome out : Action σ α) v out v :=
  fun _ h => ⟨rfl, h⟩

/-- An outcome that goes well hands its value on. -/
theorem lift_bind {out : Outcome α} {a : α} {out' : Outcome β} (hout : out = .ok a)
    (hf : Takes R (f a) v out' w) : Takes R ((liftM out : Action σ α) >>= f) v out' w :=
  bind (hout ▸ lift out) hf

/-- An outcome that is a failure ends what it is part of. -/
theorem lift_bind_error {out : Outcome α} {e : Failure} (hout : out = .error e) :
    Takes R ((liftM out : Action σ α) >>= f) v (.error e) v :=
  bind_error (hout ▸ lift out)

/-- An outcome that is kept as a value is no failure. -/
theorem attempt {out : Outcome α} (h : Takes R x v out w) :
    Takes R x.attempt v (.ok out) w := by
  intro s hs
  obtain ⟨hout, hw⟩ := h s hs
  exact ⟨congrArg Except.ok hout, hw⟩

/-- Actions that leave the meaning of the state alone give their results one after the other. -/
theorem mapM {g : α → β} {items : List α} (h : ∀ a ∈ items, Takes R (f a) v (.ok (g a)) v) :
    Takes R (items.mapM f) v (.ok (items.map g)) v := by
  induction items with
  | nil => exact pure []
  | cons a rest ih =>
      rw [List.mapM_cons]
      refine bind (h a (List.mem_cons_self ..)) ?_
      exact bind (ih fun b hb => h b (List.mem_cons_of_mem _ hb)) (pure _)

/-- Of actions that leave the meaning of the state alone, the first that fails ends the others. -/
theorem mapM_error {g : α → β} {fault : α → Failure} {good : α → Prop} {items : List α}
    (hgood : ∀ a ∈ items, good a → Takes R (f a) v (.ok (g a)) v)
    (hfault : ∀ a ∈ items, ¬ good a → Takes R (f a) v (.error (fault a)) v)
    (h : ∃ a ∈ items, ¬ good a) :
    ∃ a ∈ items, ¬ good a ∧ Takes R (items.mapM f) v (.error (fault a)) v := by
  induction items with
  | nil =>
      obtain ⟨a, ha, _⟩ := h
      cases ha
  | cons a rest ih =>
      rw [List.mapM_cons]
      by_cases hfirst : good a
      · have hrest : ∃ b ∈ rest, ¬ good b := by
          obtain ⟨b, hb, hbad⟩ := h
          rcases List.mem_cons.1 hb with rfl | hb
          · exact absurd hfirst hbad
          · exact ⟨b, hb, hbad⟩
        obtain ⟨b, hb, hbad, hmapM⟩ := ih (fun c hc => hgood c (List.mem_cons_of_mem _ hc))
          (fun c hc => hfault c (List.mem_cons_of_mem _ hc)) hrest
        exact ⟨b, List.mem_cons_of_mem _ hb, hbad,
          bind (hgood a (List.mem_cons_self ..) hfirst) (bind_error hmapM)⟩
      · exact ⟨a, List.mem_cons_self .., hfirst,
          bind_error (hfault a (List.mem_cons_self ..) hfirst)⟩

/-- A coarser meaning of states: whatever is described for every finer meaning of `v` that
stands for it. -/
theorem refine {μ : Type} {Q : ν → μ → Prop} {out : Outcome α} {a b : μ}
    (h : ∀ v, Q v a → ∃ w, Takes R x v out w ∧ Q w b) :
    Takes (fun s a => ∃ v, R s v ∧ Q v a) x a out b := by
  rintro s ⟨v, hs, hv⟩
  obtain ⟨w, hx, hw⟩ := h v hv
  obtain ⟨hout, hs'⟩ := hx s hs
  exact ⟨hout, w, hs', hw⟩

end Takes

/-! ## What actions keep -/

/-- From every state in `P` the action leaves a state in `P`, also if it fails. -/
def Keeps (P : σ → Prop) (x : Action σ α) : Prop := ∀ s, P s → P (x.run s).2

namespace Keeps

variable {P : σ → Prop} {x : Action σ α} {f : α → Action σ β}

/-- A plain result leaves the state alone. -/
theorem pure (a : α) : Keeps P (Pure.pure a) := fun _ h => h

/-- Looking at the state leaves it alone. -/
theorem inspect (f : σ → α) : Keeps P (Action.inspect f) := fun _ h => h

/-- An outcome that is found without the state leaves the state alone. -/
theorem ofOutcome (out : Outcome α) : Keeps P (Action.ofOutcome out) := fun _ h => h

/-- What both actions keep is kept by one after the other. -/
theorem bind (hx : Keeps P x) (hf : ∀ a, Keeps P (f a)) : Keeps P (x >>= f) :=
  fun s hs => run_bind_induction (hx s hs) hf

/-- An outcome that goes well hands its value on. -/
theorem lift_bind {out : Outcome α} (hf : ∀ a, out = .ok a → Keeps P (f a)) :
    Keeps P ((liftM out : Action σ α) >>= f) := by
  cases out with
  | ok a => exact hf a rfl
  | error e => exact ofOutcome (.error e)

/-- Actions one after the other. -/
theorem mapM {items : List α} (hf : ∀ a, Keeps P (f a)) : Keeps P (items.mapM f) := by
  induction items with
  | nil => exact pure []
  | cons a rest ih =>
      rw [List.mapM_cons]
      exact bind (hf a) fun b => bind ih fun bs => pure (b :: bs)

end Keeps

/-- Whatever the state, if the action goes well it leaves a state in `P`. -/
def Gains (P : σ → Prop) (x : Action σ α) : Prop :=
  ∀ s a, (x.run s).1 = .ok a → P (x.run s).2

namespace Gains

variable {P : σ → Prop} {x : Action σ α} {f : α → Action σ β}

/-- What is gained first is kept by what comes next. -/
theorem bind_keeps (hx : Gains P x) (hf : ∀ a, Keeps P (f a)) : Gains P (x >>= f) := by
  intro s b hok
  obtain ⟨a, ha, hrun⟩ := run_of_bind_ok hok
  rw [hrun]
  exact hf a _ (hx s a ha)

/-- What is gained in the end is gained. -/
theorem bind_gains (hf : ∀ a, Gains P (f a)) : Gains P (x >>= f) := by
  intro s b hok
  obtain ⟨a, -, hrun⟩ := run_of_bind_ok hok
  rw [hrun] at hok ⊢
  exact hf a _ b hok

end Gains

/-! ## What comes of actions -/

/-- A result has the one property, and a failure the other. -/
def Meets (Q : α → Prop) (F : Failure → Prop) (out : Outcome α) : Prop :=
  (∀ a, out = .ok a → Q a) ∧ ∀ e, out = .error e → F e

namespace Meets

variable {Q : α → Prop} {Q' : β → Prop} {F : Failure → Prop} {out : Outcome α}

/-- A result that has the property. -/
theorem ok {a : α} (h : Q a) : Meets Q F (.ok a) := ⟨fun _ hb => Except.ok.inj hb ▸ h, nofun⟩

/-- A failure that has the property. -/
theorem error {e : Failure} (h : F e) : Meets Q F (.error e) :=
  ⟨nofun, fun _ he => Except.error.inj he ▸ h⟩

/-- What comes after a result may rely on its property. -/
theorem bind {f : α → Outcome β} (h : Meets Q F out)
    (hf : ∀ a, out = .ok a → Q a → Meets Q' F (f a)) : Meets Q' F (out >>= f) := by
  cases out with
  | ok a => exact hf a rfl (h.1 a rfl)
  | error e => exact error (h.2 e rfl)

/-- A result is handed on as what a function makes of it. -/
theorem map {f : α → β} (h : Meets Q F out) (hf : ∀ a, Q a → Q' (f a)) :
    Meets Q' F (out.map f) := by
  cases out with
  | ok a => exact ok (hf a (h.1 a rfl))
  | error e => exact error (h.2 e rfl)

/-- A result with a property has every property that follows from it. -/
theorem mono {Q' : α → Prop} (h : Meets Q F out) (hQ : ∀ a, Q a → Q' a) : Meets Q' F out :=
  ⟨fun a ha => hQ a (h.1 a ha), h.2⟩

end Meets

/-- From every state in `P` the action leaves a state in `P`, and its outcome `Meets` the
properties. -/
def Yields (P : σ → Prop) (x : Action σ α) (Q : α → Prop) (F : Failure → Prop) : Prop :=
  ∀ s, P s → P (x.run s).2 ∧ Meets Q F (x.run s).1

namespace Yields

variable {P : σ → Prop} {Q : α → Prop} {Q' : β → Prop} {F : Failure → Prop} {x : Action σ α}
  {f : α → Action σ β}

/-- A plain result leaves the state alone. -/
theorem pure {a : α} (h : Q a) : Yields P (Pure.pure a) Q F := fun _ hs => ⟨hs, Meets.ok h⟩

/-- Looking at the state leaves it alone. -/
theorem inspect {f : σ → α} (h : ∀ s, P s → Q (f s)) : Yields P (Action.inspect f) Q F :=
  fun s hs => ⟨hs, Meets.ok (h s hs)⟩

/-- An outcome that is found without the state leaves the state alone. -/
theorem ofOutcome {out : Outcome α} (h : Meets Q F out) : Yields P (Action.ofOutcome out) Q F :=
  fun _ hs => ⟨hs, h⟩

/-- What comes after an action may rely on the property of its result. -/
theorem bind (hx : Yields P x Q F) (hf : ∀ a, Q a → Yields P (f a) Q' F) :
    Yields P (x >>= f) Q' F := by
  intro s hs
  obtain ⟨hs', hok, herror⟩ := hx s hs
  cases hout : (x.run s).1 with
  | ok a =>
      rw [run_bind_of_ok hout]
      exact hf a (hok a hout) _ hs'
  | error e =>
      rw [run_bind_of_error hout]
      exact ⟨hs', Meets.error (herror e hout)⟩

/-- An outcome that goes well hands its value on. -/
theorem lift_bind {out : Outcome α} (h : Meets Q F out)
    (hf : ∀ a, Q a → Yields P (f a) Q' F) : Yields P ((liftM out : Action σ α) >>= f) Q' F :=
  bind (ofOutcome h) hf

/-- A result with a property has every property that follows from it. -/
theorem mono {Q' : α → Prop} (h : Yields P x Q F) (hQ : ∀ a, Q a → Q' a) : Yields P x Q' F :=
  fun s hs => ⟨(h s hs).1, (h s hs).2.mono hQ⟩

/-- Actions one after the other have results with the property. -/
theorem mapM {items : List α} (h : ∀ a ∈ items, Yields P (f a) Q' F) :
    Yields P (items.mapM f) (fun bs => ∀ b ∈ bs, Q' b) F := by
  induction items with
  | nil => exact pure nofun
  | cons a rest ih =>
      rw [List.mapM_cons]
      refine bind (h a (List.mem_cons_self ..)) fun b hb => ?_
      refine bind (ih fun c hc => h c (List.mem_cons_of_mem _ hc)) fun bs hbs => pure ?_
      exact List.forall_mem_cons.2 ⟨hb, hbs⟩

/-- Actions one after the other go well or fail with the property. -/
theorem mapM_any {items : List α} (h : ∀ a ∈ items, Yields P (f a) (fun _ => True) F) :
    Yields P (items.mapM f) (fun _ => True) F := (mapM h).mono fun _ _ => trivial

/-- An outcome that is kept as a value has the properties. -/
theorem attempt (h : Yields P x Q F) {F' : Failure → Prop} : Yields P x.attempt (Meets Q F) F' :=
  fun s hs => ⟨(h s hs).1, Meets.ok (h s hs).2⟩

end Yields

/-! ## What actions find -/

/-- A result has the property, and a failure is not that of a missing entry. -/
def Found (Q : α → Prop) (out : Outcome α) : Prop :=
  (∀ a, out = .ok a → Q a) ∧ ∀ e, out = .error e → e.isNotFound = false

namespace Found

variable {Q : α → Prop} {Q' : β → Prop}

/-- A result that has the property. -/
theorem ok {a : α} (h : Q a) : Found Q (.ok a) := Meets.ok h

/-- A failure for another reason. -/
theorem error {e : Failure} (h : e.isNotFound = false) : Found Q (.error e) := Meets.error h

/-- What comes after a result may rely on what was found. -/
theorem bind {out : Outcome α} {f : α → Outcome β} (h : Found Q out)
    (hf : ∀ a, Q a → Found Q' (f a)) : Found Q' (out >>= f) := Meets.bind h fun a _ => hf a

/-- A result with a property has every property that follows from it. -/
theorem mono {Q' : α → Prop} {out : Outcome α} (h : Found Q out) (hQ : ∀ a, Q a → Q' a) :
    Found Q' out := Meets.mono h hQ

end Found

/-- From every state in `P` the action leaves a state in `P`, and its outcome is `Found` with
`Q`. -/
def Finds (P : σ → Prop) (x : Action σ α) (Q : α → Prop) : Prop :=
  ∀ s, P s → P (x.run s).2 ∧ Found Q (x.run s).1

namespace Finds

variable {P : σ → Prop} {Q : α → Prop} {Q' : β → Prop} {x : Action σ α} {f : α → Action σ β}

/-- A plain result leaves the state alone. -/
theorem pure {a : α} (h : Q a) : Finds P (Pure.pure a) Q := Yields.pure h

/-- What comes after an action may rely on what it has found. -/
theorem bind (hx : Finds P x Q) (hf : ∀ a, Q a → Finds P (f a) Q') : Finds P (x >>= f) Q' :=
  Yields.bind hx hf

/-- An outcome that is found without the state leaves the state alone. -/
theorem ofOutcome {out : Outcome α} (h : Found Q out) : Finds P (Action.ofOutcome out) Q :=
  Yields.ofOutcome h

/-- An action whose outcome is known leaves the meaning of the state alone. -/
theorem of_takes {R : σ → ν → Prop} {v : ν} {out : Outcome α} (h : Takes R x v out v)
    (hout : Found Q out) : Finds (fun s => R s v) x Q := by
  intro s hs
  obtain ⟨hrun, hs'⟩ := h s hs
  exact ⟨hs', hrun ▸ hout⟩

/-- What is found has every property that follows from the one known. -/
theorem mono {Q' : α → Prop} (h : Finds P x Q) (hQ : ∀ a, Q a → Q' a) : Finds P x Q' :=
  Yields.mono h hQ

/-- Actions one after the other find what each of them finds. -/
theorem mapM {items : List α} (h : ∀ a ∈ items, Finds P (f a) Q') :
    Finds P (items.mapM f) fun bs => ∀ b ∈ bs, Q' b := Yields.mapM h

/-- Actions one after the other go well or fail for another reason than a missing entry. -/
theorem mapM_any {items : List α} (h : ∀ a ∈ items, Finds P (f a) fun _ => True) :
    Finds P (items.mapM f) fun _ => True := Yields.mapM_any h

/-- An outcome that is kept as a value is found. -/
theorem attempt (h : Finds P x Q) : Finds P x.attempt (Found Q) := Yields.attempt h

end Finds

end SiteIndex.Action
