import SiteIndex.Proofs.Action

/-!
# Two runs in lockstep

`Lockstep R x` compares two runs of one computation: from states in relation `R` they give the same
and leave states in relation `R`. The rules below follow the way computations are put together, once
for actions and once for computations that cannot fail.
-/

namespace SiteIndex

variable {σ τ α β : Type} {R : σ → σ → Prop}

/-- From related states the computation gives the same and leaves related states. -/
def Lockstep (R : σ → σ → Prop) (x : σ → β × σ) : Prop :=
  ∀ s t, R s t → (x s).1 = (x t).1 ∧ R (x s).2 (x t).2

namespace Lockstep

/-! ## Actions -/

/-- A plain result does not look at the state. -/
theorem pure (a : α) : Lockstep R (Pure.pure a : Action σ α) := fun _ _ h => ⟨rfl, h⟩

/-- An outcome that is found without the state does not look at it. -/
theorem ofOutcome (out : Outcome α) : Lockstep R (Action.ofOutcome out : Action σ α) :=
  fun _ _ h => ⟨rfl, h⟩

/-- Looking at what related states have in common. -/
theorem inspect {f : σ → α} (h : ∀ s t, R s t → f s = f t) : Lockstep R (Action.inspect f) :=
  fun s t hst => ⟨congrArg Except.ok (h s t hst), hst⟩

/-- Both runs go on with the same result or fail alike. -/
theorem bind {x : Action σ α} {f : α → Action σ β} (hx : Lockstep R x)
    (hf : ∀ a, Lockstep R (f a)) : Lockstep R (x >>= f) := by
  intro s t hst
  obtain ⟨hout, hrest⟩ := hx s t hst
  change (x.run s).1 = (x.run t).1 at hout
  change ((x >>= f).run s).1 = ((x >>= f).run t).1 ∧ R ((x >>= f).run s).2 ((x >>= f).run t).2
  cases hs : (x.run s).1 with
  | ok a =>
      rw [Action.run_bind_of_ok hs, Action.run_bind_of_ok (hout ▸ hs)]
      exact hf a _ _ hrest
  | error e =>
      rw [Action.run_bind_of_error hs, Action.run_bind_of_error (hout ▸ hs)]
      exact ⟨rfl, hrest⟩

/-- An outcome that goes well hands its value on in both runs. -/
theorem lift_bind {out : Outcome α} {f : α → Action σ β}
    (hf : ∀ a, out = .ok a → Lockstep R (f a)) : Lockstep R ((liftM out : Action σ α) >>= f) := by
  cases out with
  | ok a => exact hf a rfl
  | error e => exact ofOutcome (.error e)

/-- Actions one after the other. -/
theorem mapM {f : α → Action σ β} {items : List α} (hf : ∀ a ∈ items, Lockstep R (f a)) :
    Lockstep R (items.mapM f) := by
  induction items with
  | nil => exact pure []
  | cons a rest ih =>
      rw [List.mapM_cons]
      refine bind (hf a (List.mem_cons_self ..)) fun b => ?_
      exact bind (ih fun c hc => hf c (List.mem_cons_of_mem _ hc)) fun bs => pure (b :: bs)

/-- An action on a part of the state. -/
theorem within {P : τ → τ → Prop} {view : τ → σ} {put : σ → τ → τ} {x : Action σ α}
    (hx : Lockstep R x) (hview : ∀ s t, P s t → R (view s) (view t))
    (hput : ∀ s t a b, P s t → R a b → P (put a s) (put b t)) :
    Lockstep P (Action.within view put x) := by
  intro s t hst
  obtain ⟨hout, hrest⟩ := hx _ _ (hview s t hst)
  exact ⟨hout, hput s t _ _ hst hrest⟩

/-! ## Computations that cannot fail -/

/-- A plain result does not look at the state. -/
theorem pureState (a : α) : Lockstep R (Pure.pure a : StateM σ α) := fun _ _ h => ⟨rfl, h⟩

/-- Both runs go on with the same result. -/
theorem bindState {x : StateM σ α} {f : α → StateM σ β} (hx : Lockstep R x)
    (hf : ∀ a, Lockstep R (f a)) : Lockstep R (x >>= f) := by
  intro s t hst
  obtain ⟨hout, hrest⟩ := hx s t hst
  show (f (x s).1 (x s).2).1 = (f (x t).1 (x t).2).1 ∧
    R (f (x s).1 (x s).2).2 (f (x t).1 (x t).2).2
  rw [← hout]
  exact hf _ _ _ hrest

/-- A loop keeps both runs in step. -/
theorem foldlM {f : β → α → StateM σ β} (hf : ∀ b a, Lockstep R (f b a)) (items : List α) (b : β) :
    Lockstep R (items.foldlM f b) := by
  induction items generalizing b with
  | nil => exact pureState b
  | cons a rest ih =>
      rw [List.foldlM_cons]
      exact bindState (hf b a) ih

end Lockstep

end SiteIndex
