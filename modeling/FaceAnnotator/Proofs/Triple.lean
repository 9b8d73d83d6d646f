/-!
# FaceAnnotator.Proofs.Triple

**Triples over two states**: the one that a computation passes along itself, and one of the
surroundings that it runs in.

`Triple P x Q` says that `x`, begun in states that satisfy `P`, gives a result and leaves states
that satisfy `Q`. The computations here have one result and always give it, so nothing is said
about failing or going on for ever. `Leaves P x Q` says the same of a computation that has no state
of its own.
-/

namespace FaceAnnotator

variable {σ ω α β : Type}

/-- One computation after another, when it is known what comes of the first. -/
theorem bind_run {x : StateM ω α} {f : α → StateM ω β} {w w' : ω} {a : α} (h : x w = (a, w')) :
    (x >>= f) w = f a w' := by
  have step : (x >>= f) w = f (x w).1 (x w).2 := rfl
  rw [step, h]

/-- From surroundings that satisfy `P` the computation comes to a result and to surroundings
that satisfy `Q`. -/
def Leaves (P : ω → Prop) (x : StateM ω α) (Q : α → ω → Prop) : Prop := ∀ w, P w → Q (x w).1 (x w).2

namespace Leaves

variable {P : ω → Prop} {Q : α → ω → Prop} {R : β → ω → Prop} {x : StateM ω α} {f : α → StateM ω β}

theorem done {a : α} (h : ∀ w, P w → Q a w) : Leaves P (pure a) Q := h

theorem bind (hx : Leaves P x Q) (hf : ∀ a, Leaves (Q a) (f a) R) : Leaves P (x >>= f) R :=
  fun w h => hf _ _ (hx w h)

end Leaves

/-- From states that satisfy `P` the computation comes to a result and to states that satisfy
`Q`. -/
def Triple (P : σ → ω → Prop) (x : StateT σ (StateM ω) α) (Q : α → σ → ω → Prop) : Prop :=
  ∀ s w, P s w → Q (x s w).1.1 (x s w).1.2 (x s w).2

namespace Triple

variable {P : σ → ω → Prop} {Q : α → σ → ω → Prop} {R : β → σ → ω → Prop}
  {x : StateT σ (StateM ω) α} {f : α → StateT σ (StateM ω) β}

/-- To return a value changes no state. -/
theorem done {a : α} (h : ∀ s w, P s w → Q a s w) : Triple P (pure a) Q := h

/-- One computation after another. -/
theorem bind (hx : Triple P x Q) (hf : ∀ a, Triple (Q a) (f a) R) : Triple P (x >>= f) R :=
  fun s w h => hf _ _ _ (hx s w h)

/-- Two things that are known of a computation. -/
theorem and {P' : σ → ω → Prop} {Q' : α → σ → ω → Prop} (h : Triple P x Q) (h' : Triple P' x Q') :
    Triple (fun s w => P s w ∧ P' s w) x fun a s w => Q a s w ∧ Q' a s w :=
  fun s w holds => ⟨h s w holds.1, h' s w holds.2⟩

/-- What is known of the states before may have an unknown in it. -/
theorem of_exists {ι : Type} {P : ι → σ → ω → Prop} (h : ∀ i, Triple (P i) x Q) :
    Triple (fun s w => ∃ i, P i s w) x Q :=
  fun s w ⟨i, holds⟩ => h i s w holds

/-- What is known whatever the states are may be used for the computation. -/
theorem of_and {P : σ → ω → Prop} {fact : Prop} (h : fact → Triple P x Q) :
    Triple (fun s w => P s w ∧ fact) x Q :=
  fun s w holds => h holds.2 s w holds.1

/-- What holds of a result on its own may be used for what comes after it. -/
theorem bind_of_eq {a : α} (hx : Triple P x fun b s w => b = a ∧ Q b s w)
    (hf : Triple (Q a) (f a) R) : Triple P (x >>= f) R := by
  intro s w h
  obtain ⟨eq, holds⟩ := hx s w h
  have step : (x >>= f) s w = f (x s w).1.1 (x s w).1.2 (x s w).2 := rfl
  rw [step, eq]
  rw [eq] at holds
  exact hf _ _ holds

end Triple

end FaceAnnotator
