import SiteIndex.Failure

/-!
# Actions

An action changes a state and may fail. What it has changed before it fails stays changed, so a
failure gives the state back as well. An action on a part of a state is an action on the whole
(`Action.within`).
-/

namespace SiteIndex

/-- A computation on a state that may fail; its changes to the state stay when it does. -/
abbrev Action (σ α : Type) : Type := ExceptT Failure (StateM σ) α

namespace Action

variable {σ τ α : Type}

/-- Runs an action. -/
def run (action : Action σ α) (state : σ) : Outcome α × σ := action state

/-- The action of a function from a state to an outcome and the next state. -/
def ofFunction (f : σ → Outcome α × σ) : Action σ α := f

/-- An outcome that does not touch the state. -/
def ofOutcome (outcome : Outcome α) : Action σ α := fun s => (outcome, s)

/-- Looks at the state. -/
def inspect (f : σ → α) : Action σ α := fun s => (.ok (f s), s)

/-- The outcome of an action as a value, so that the caller can go on after a failure. -/
def attempt (action : Action σ α) : Action σ (Outcome α) := fun s =>
  let (outcome, s) := action s
  (.ok outcome, s)

/-- An action on a part of the state; `view` shows the part and `put` puts it back. -/
def within (view : τ → σ) (put : σ → τ → τ) (action : Action σ α) : Action τ α := fun t =>
  let (outcome, s) := action (view t)
  (outcome, put s t)

/-- An action on the first of two states. -/
def onFirst (action : Action σ α) : Action (σ × τ) α := action.within (·.1) fun s t => (s, t.2)

end Action

instance {σ : Type} : MonadLift Outcome (ExceptT Failure (StateM σ)) := ⟨Action.ofOutcome⟩

end SiteIndex
