import FaceAnnotator.Pipeline.Run
/-!
# FaceAnnotator.Proofs.Pipeline.Trace

**Watching the calls of a run.**

`Pipeline.traced` is a pipeline whose parts do what they did before and also note every call that is
made to them, with what came of it. Nothing in a run depends on the notes, so the traced run is the
run itself seen from outside. The clock is no part of a pipeline: looking at it is not noted.

`Traces x y R` says both things at once of a traced computation `x` and a plain one `y`: whatever
happened before, `x` does what `y` does, and the calls it adds to the notes satisfy `R`. `TracesAt`
says the same of one state, and `R` may speak of the state afterwards. The rules below go through a
computation from its first call on and put that call before all the others in `R`.
-/

namespace FaceAnnotator

/-- One call to a part of a pipeline, with what came of it. -/
inductive Call (ε π : Type) where
  /-- The source connects to what a path names. -/
  | connect (path : String) (outcome : Except ε Nat)
  /-- The observer is told something. -/
  | tell (e : Event)
  /-- The source is asked for its frames. -/
  | frames
  /-- One more item is asked for; `none` if there is no more. -/
  | next (outcome : Option (Except ε Frame))
  /-- The processor gets a frame. -/
  | process (f : Frame) (processed : Processed π)
  /-- The sink gets a frame. -/
  | write (f : Frame) (outcome : Except ε Unit)
  /-- The processor is asked how many labels the last frame got. -/
  | labelCount (labels : Nat)
  /-- The source is closed. -/
  | closeSource
  /-- The sink is closed. -/
  | closeSink (outcome : Except ε Unit)

section traced

variable {m : Type → Type} [Monad m] {ε π α : Type}

/-- Does something and notes that it was done. -/
def noted (x : m α) (call : α → Call ε π) : StateT (List (Call ε π)) m α := fun calls => do
  let a ← x
  pure (a, calls ++ [call a])

/-- Does something that is not noted. -/
def unnoted (x : m α) : StateT (List (Call ε π)) m α := fun calls => do
  let a ← x
  pure (a, calls)

/-- A feed that notes when it is asked for an item. -/
def Feed.traced (feed : Feed m ε) : Feed (StateT (List (Call ε π)) m) ε where
  items := feed.items.map fun item => noted item fun outcome => .next (some outcome)
  finish := noted feed.finish fun _ => .next none

/-- A pipeline that notes all calls to its parts. -/
def Pipeline.traced (p : Pipeline m ε π) : Pipeline (StateT (List (Call ε π)) m) ε π where
  source := {
    connect := fun path => noted (p.source.connect path) (.connect path)
    frames := do
      let feed ← noted p.source.frames fun _ => .frames
      pure feed.traced
    close := noted p.source.close fun _ => .closeSource }
  processor := {
    process := fun f => noted (p.processor.process f) (.process f)
    labelCount := noted p.processor.labelCount .labelCount }
  sink := {
    write := fun f => noted (p.sink.write f) (.write f)
    close := noted p.sink.close .closeSink }
  observe := fun e => noted (p.observe e) fun _ => .tell e
  now := unnoted p.now

end traced

/-! ### What a traced computation does and notes -/

variable {σ ε π α β : Type}

/-- At this state the traced computation does what the plain one does, and the calls that it notes
satisfy `R`, together with what they come to and the state that they leave. -/
def TracesAt (s : σ) (x : StateT (List (Call ε π)) (StateM σ) α) (y : StateM σ α)
    (R : List (Call ε π) → α → σ → Prop) : Prop :=
  ∀ before, ∃ calls, x before s = (((y s).1, before ++ calls), (y s).2) ∧ R calls (y s).1 (y s).2

namespace TracesAt

variable {s : σ} {x : StateT (List (Call ε π)) (StateM σ) α} {y : StateM σ α}
  {f : α → StateT (List (Call ε π)) (StateM σ) β} {g : α → StateM σ β}
  {R : List (Call ε π) → β → σ → Prop} {S : List (Call ε π) → α → σ → Prop}

/-- To return a value is no call. -/
theorem done {a : α} (h : S [] a s) :
    TracesAt s (pure a : StateT (List (Call ε π)) (StateM σ) α) (pure a) S :=
  fun before => ⟨[], by rw [List.append_nil]; rfl, h⟩

/-- The calls of two computations, one after the other. -/
theorem bind (hx : TracesAt s x y S)
    (hf : ∀ calls a s', S calls a s' → TracesAt s' (f a) (g a) fun others b =>
      R (calls ++ others) b) :
    TracesAt s (x >>= f) (y >>= g) R := by
  intro before
  obtain ⟨calls, hrun, hcalls⟩ := hx before
  obtain ⟨others, hnext, hothers⟩ := hf calls _ _ hcalls (before ++ calls)
  refine ⟨calls ++ others, ?_, hothers⟩
  have step : (x >>= f) before s = f (x before s).1.1 (x before s).1.2 (x before s).2 := rfl
  rw [step, hrun]
  rw [List.append_assoc] at hnext
  exact hnext

/-- What is noted adds its call and no other. -/
theorem noted_bind {call : α → Call ε π} {a : α} {s' : σ} (run : y s = (a, s'))
    (hf : TracesAt s' (f a) (g a) fun calls b => R (call a :: calls) b) :
    TracesAt s (noted y call >>= f) (y >>= g) R := by
  have one : TracesAt s (noted y call) y fun calls b s'' => calls = [call a] ∧ b = a ∧ s'' = s' :=
    fun before => ⟨[call (y s).1], rfl, by rw [run], by rw [run], by rw [run]⟩
  refine one.bind ?_
  rintro _ _ _ ⟨rfl, rfl, rfl⟩
  exact hf

/-- What is not noted adds no call. -/
theorem unnoted_bind {a : α} {s' : σ} (run : y s = (a, s')) (hf : TracesAt s' (f a) (g a) R) :
    TracesAt s (unnoted y >>= f) (y >>= g) R := by
  have none : TracesAt s (unnoted y) y fun calls b s'' =>
      calls = ([] : List (Call ε π)) ∧ b = a ∧ s'' = s' :=
    fun before => ⟨[], by rw [List.append_nil]; rfl, rfl, by rw [run], by rw [run]⟩
  refine none.bind ?_
  rintro _ _ _ ⟨rfl, rfl, rfl⟩
  exact hf

end TracesAt

/-- The traced computation does what the plain one does, and the calls that it notes satisfy `R`. -/
def Traces (x : StateT (List (Call ε π)) (StateM σ) α) (y : StateM σ α)
    (R : List (Call ε π) → α → Prop) : Prop :=
  ∀ before s, ∃ calls, x before s = (((y s).1, before ++ calls), (y s).2) ∧ R calls (y s).1

namespace Traces

variable {x : StateT (List (Call ε π)) (StateM σ) α} {y : StateM σ α}
  {f : α → StateT (List (Call ε π)) (StateM σ) β} {g : α → StateM σ β}
  {R : List (Call ε π) → β → Prop} {S : List (Call ε π) → α → Prop}

theorem to_at (h : Traces x y S) (s : σ) : TracesAt s x y fun calls a _ => S calls a :=
  fun before => h before s

theorem of_at (h : ∀ s, TracesAt s x y fun calls a _ => S calls a) : Traces x y S :=
  fun before s => h s before

/-- To return a value is no call. -/
theorem done {a : α} (h : S [] a) :
    Traces (pure a : StateT (List (Call ε π)) (StateM σ) α) (pure a) S :=
  of_at fun _ => TracesAt.done h

/-- The calls of two computations, one after the other. -/
theorem bind (hx : Traces x y S)
    (hf : ∀ calls a, S calls a → Traces (f a) (g a) fun others b => R (calls ++ others) b) :
    Traces (x >>= f) (y >>= g) R :=
  of_at fun s => (hx.to_at s).bind fun calls a s' h => (hf calls a h).to_at s'

/-- A noted call stands before all later ones. -/
theorem noted_bind {call : α → Call ε π}
    (hf : ∀ a, Traces (f a) (g a) fun calls b => R (call a :: calls) b) :
    Traces (FaceAnnotator.noted y call >>= f) (y >>= g) R :=
  of_at fun _ => TracesAt.noted_bind rfl ((hf _).to_at _)

/-- What is not noted adds no call. -/
theorem unnoted_bind (hf : ∀ a, Traces (f a) (g a) R) :
    Traces (unnoted y >>= f) (y >>= g) R :=
  of_at fun _ => TracesAt.unnoted_bind rfl ((hf _).to_at _)

end Traces

end FaceAnnotator
