import FaceAnnotator.Pipeline.Run
import FaceAnnotator.Proofs.Triple
/-!
# FaceAnnotator.Proofs.Pipeline.Invariant

**What every operation of a pipeline preserves, a run preserves.**

Writing counts only if a frame can come so far: `fed` says whether any of the items may give one. So
an invariant that no writing preserves may still hold for a run over nothing.
-/

namespace FaceAnnotator.Pipeline

variable {σ ω ε π : Type}

/-- The operations of a pipeline preserve an invariant. -/
structure Preserves (p : Pipeline (StateT σ (StateM ω)) ε π) (path : String) (I : σ → ω → Prop)
    (fed : Prop) : Prop where
  connect : Triple I (p.source.connect path) fun _ => I
  frames : Triple I p.source.frames fun feed s w =>
    I s w ∧ (∀ item ∈ feed.items, Triple I item fun found s w => I s w ∧ (found.isOk → fed)) ∧
      Triple I feed.finish fun _ => I
  closeSource : Triple I p.source.close fun _ => I
  process : ∀ f, Triple I (p.processor.process f) fun _ => I
  labelCount : Triple I p.processor.labelCount fun _ => I
  write : fed → ∀ f, Triple I (p.sink.write f) fun _ => I
  closeSink : Triple I p.sink.close fun _ => I
  observe : ∀ e, Triple I (p.observe e) fun _ => I
  now : Triple I p.now fun _ => I

namespace Preserves

variable {p : Pipeline (StateT σ (StateM ω)) ε π} {path : String} {I : σ → ω → Prop} {fed : Prop}

theorem stageDone (h : p.Preserves path I fed) (stage : String) (start : Nat) :
    Triple I (p.stageDone stage start) fun _ => I :=
  .bind h.now fun _ => h.observe _

theorem frameDone (h : p.Preserves path I fed) (total : Nat) (stats : RunStats) (f : Frame)
    (labels : Nat) : Triple I (p.frameDone total stats f labels) fun _ => I :=
  .bind (h.observe _) fun _ => .bind (h.observe _) fun _ => h.observe _

theorem round (h : p.Preserves path I fed) (total : Nat) (stats : RunStats)
    {item : StateT σ (StateM ω) (Except ε Frame)}
    (hitem : Triple I item fun found s w => I s w ∧ (found.isOk → fed)) :
    Triple I (p.round total stats item) fun _ => I := by
  refine .bind h.now fun start => .bind hitem fun found => Triple.of_and fun given => ?_
  cases found with
  | error cause => exact .done fun _ _ holds => holds
  | ok f =>
      -- There is a frame now, so writing is covered by the invariant.
      refine .bind (h.stageDone _ _) fun _ => .bind h.now fun start => ?_
      refine .bind (h.process f) fun processed => ?_
      cases processed.outcome with
      | error cause => exact .done fun _ _ holds => holds
      | ok goOn =>
          refine .bind (h.stageDone _ _) fun _ => .bind h.now fun start => ?_
          refine .bind (h.write (given rfl) _) fun written => ?_
          cases written with
          | error cause => exact .done fun _ _ holds => holds
          | ok _ =>
              refine .bind (h.stageDone _ _) fun _ => .bind h.labelCount fun labels => ?_
              refine .bind (h.frameDone _ _ _ _) fun _ => ?_
              cases goOn with
              | true => exact .done fun _ _ holds => holds
              | false => exact .bind (h.observe _) fun _ => .done fun _ _ holds => holds

theorem rounds (h : p.Preserves path I fed) (total : Nat) {finish : StateT σ (StateM ω) Unit}
    (hfinish : Triple I finish fun _ => I) (stats : RunStats)
    {items : List (StateT σ (StateM ω) (Except ε Frame))}
    (hitems : ∀ item ∈ items, Triple I item fun found s w => I s w ∧ (found.isOk → fed)) :
    Triple I (p.rounds total finish stats items) fun _ => I := by
  induction items generalizing stats with
  | nil => exact .bind hfinish fun _ => .done fun _ _ holds => holds
  | cons item items ih =>
      refine .bind (h.round total stats (hitems item List.mem_cons_self)) fun outcome => ?_
      cases outcome with
      | error fault => exact .done fun _ _ holds => holds
      | ok stats =>
          dsimp only
          split
          · exact .done fun _ _ holds => holds
          · exact ih _ fun other mem => hitems other (List.mem_cons_of_mem _ mem)

theorem run (h : p.Preserves path I fed) : Triple I (p.run path) fun _ => I := by
  refine .bind h.connect fun connected => ?_
  cases connected with
  | error cause => exact .done fun _ _ holds => holds
  | ok total =>
      refine .bind (h.observe _) fun _ => .bind h.frames fun feed => Triple.of_and fun items => ?_
      refine .bind (h.rounds total items.2 {} items.1) fun outcome => ?_
      refine .bind h.closeSource fun _ => .bind h.closeSink fun closed => ?_
      cases verdict outcome closed with
      | error fault => exact .done fun _ _ holds => holds
      | ok stats => exact .bind (h.observe _) fun _ => .done fun _ _ holds => holds

end Preserves

end FaceAnnotator.Pipeline
