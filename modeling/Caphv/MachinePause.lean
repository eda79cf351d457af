import Caphv.FinalizerSafety
import Caphv.MachineService

namespace Caphv.Machine

/-- What a pass may ask for before it is let through: its machine, its owners, the check for the
pause, and the patch of the condition that the check has set, with the empty patch of the status
that follows it. -/
def Req.BeforePause : Req → Prop
  | .getMachine | .getOwnerMachine | .getOwnerCluster _ | .ensurePausedCondition _ _ => True
  | .patchConditions before after =>
    ∃ p, before.lookup "Paused" ≠ some p ∧ after = before.set "Paused" p
  | .patchStatus p => p = ⟨none, none, none, none, none, none⟩
  | _ => False

/-- The answer of `EnsurePausedCondition` that lets a pass go on. -/
def PausedResult.letsThrough (x : PausedResult) : Bool :=
  x.err.isNone && !x.isPaused && !x.requeue

def letThrough (through : Bool) : (r : Req) → Resp r → Bool
  | .ensurePausedCondition _ _, x => through || PausedResult.letsThrough x
  | _, _ => through

def pauseContract : Contract ObjectKey Req Bool :=
  ⟨fun _ through r => through = true ∨ r.BeforePause, fun _ _ => True⟩

/-- The machine controller, watched for the check. -/
def guarded (ext : Externals) : Controller ObjectKey Req Resp Answer World (View × Bool) Env :=
  (system ext).observe letThrough false

/-- At most the Paused condition of the stored machine `k` has changed. -/
structure OnlyPaused (k : ObjectKey) (w w' : World) : Prop where
  rest : w' = { w with machines := w'.machines }
  others : ∀ j, j ≠ k → w'.machines.lookup j = w.machines.lookup j
  machine : w'.machines.lookup k = w.machines.lookup k ∨
    ∃ m p, w.machines.lookup k = some m ∧ w'.machines.lookup k = some (m.markPaused p)

section Pause

variable {ext : Externals} {k : ObjectKey} {m : HarvesterMachine} {w : World}

theorem OnlyPaused.refl (k : ObjectKey) (w : World) : OnlyPaused k w w :=
  ⟨rfl, fun _ _ => rfl, Or.inl rfl⟩

theorem OnlyPaused.set {m' : HarvesterMachine} (hm : w.machines.lookup k = some m)
    (hm' : m' = m ∨ ∃ p, m' = m.markPaused p) : OnlyPaused k w (w.setMachine k m') := by
  refine ⟨rfl, fun j hj => ?_, ?_⟩
  · rw [lookup_setMachine, if_neg hj]
  · rw [lookup_setMachine, if_pos rfl, hm]
    rcases hm' with rfl | ⟨p, rfl⟩
    · exact Or.inl rfl
    · exact Or.inr ⟨m, p, rfl, rfl⟩

/-- Once it has been let through, a routine may ask for everything. -/
theorem conforms_letThrough {α : Type} (p : Prog Req Resp α) :
    Prog.Conforms (pauseContract.guard k) letThrough true p fun through _ => through = true := by
  refine Prog.conforms_of_invariant (P := pauseContract.guard k)
      (I := fun through => through = true)
    (fun v r hv => Or.inl hv) (fun v r x hv => ?_) rfl p
  cases r with
  | ensurePausedCondition c recorded => simp [letThrough, hv]
  | _ => exact hv

/-- A body that was not let through has changed nothing in memory but the Paused condition. -/
theorem conforms_reconcileBody_pause :
    Prog.Conforms (pauseContract.guard k) letThrough false (reconcileBody ext k m)
      fun through out => through = true ∨ out.2 = m ∨ ∃ p, out.2 = m.markPaused p := by
  refine ⟨Or.inr trivial, fun owner => ?_⟩
  rcases owner with e | _ | owner
  · exact Or.inr (Or.inl rfl)
  · exact Or.inr (Or.inl rfl)
  refine ⟨Or.inr trivial, fun cluster => ?_⟩
  rcases cluster with e | _ | cluster
  · exact Or.inr (Or.inl rfl)
  · exact Or.inr (Or.inl rfl)
  refine ⟨Or.inr trivial, fun paused => ?_⟩
  show Prog.Conforms _ _ (letThrough false (.ensurePausedCondition cluster _) paused)
    ((if paused.err ≠ none ∨ paused.isPaused ∨ paused.requeue then
      (do recordPaused paused; pure (.empty, paused.err) : Pass Outcome) else _) m) _
  split_ifs with hstop
  · unfold recordPaused
    cases paused.condition with
    | none => exact Or.inr (Or.inl rfl)
    | some p => exact Or.inr (Or.inr ⟨p, rfl⟩)
  · have hthrough : letThrough false (.ensurePausedCondition cluster
        (m.status.conditions.lookup "Paused")) paused = true := by
      push Not at hstop
      simpa [letThrough, PausedResult.letsThrough, and_assoc] using hstop
    rw [hthrough]
    exact (conforms_letThrough _).mono fun _ _ h => Or.inl h

/-- The patch of a pass that was stopped. -/
theorem conforms_deferredPatch_pause (p : Condition) :
    Prog.Conforms (pauseContract.guard k) letThrough false (deferredPatch m (m.markPaused p))
      fun _ _ => True := by
  have hconditions : Prog.Conforms (pauseContract.guard k) letThrough false
      (sendConditions m (m.markPaused p)) fun through _ => through = false := by
    unfold sendConditions
    split_ifs with hsame
    · rfl
    · refine ⟨Or.inr ⟨p, fun hp => hsame ?_, rfl⟩, fun _ => rfl⟩
      have hset : (m.markPaused p).status.conditions = m.status.conditions := if_pos hp
      rw [hset, Conditions.changed_self]
  have hobject : sendObject m (m.markPaused p) = pure none := if_pos ⟨rfl, rfl⟩
  have hstatus : Prog.Conforms (pauseContract.guard k) letThrough false
      (sendStatus m (m.markPaused p)) fun _ _ => True := by
    unfold sendStatus
    split_ifs
    · trivial
    · have hempty : StatusPatch.between m.status (m.markPaused p).status =
          ⟨none, none, none, none, none, none⟩ := by
        simp [StatusPatch.between, HarvesterMachine.markPaused, changedTo]
      refine ⟨Or.inr hempty, fun out => ?_⟩
      cases out with
      | ok u => trivial
      | error e =>
        dsimp only [Prog.bind]
        split_ifs <;> trivial
  refine hconditions.bind fun through _ hthrough => ?_
  rw [hthrough, hobject]
  exact hstatus.bind fun _ _ _ => trivial

/-- The passes ask for nothing else before they are let through. -/
theorem keeps_pause (ext : Externals) :
    (guarded ext).Keeps ((contract ext).both pauseContract) := by
  refine (keeps_contract ext).observe fun k => ?_
  show Prog.Conforms (pauseContract.guard k) letThrough false
    (reconcile ext k >>= fun _ => pure ()) fun _ _ => True
  have hpass : Prog.Conforms (pauseContract.guard k) letThrough false (reconcile ext k)
      fun _ _ => True := by
    refine ⟨Or.inr trivial, fun got => ?_⟩
    cases got with
    | error e =>
      dsimp only [Prog.bind]
      split_ifs <;> trivial
    | ok m =>
      show Prog.Conforms _ _ false (reconcileRead ext k m) _
      refine Prog.Conforms.bind conforms_reconcileBody_pause fun through out hout => ?_
      have hpatch : Prog.Conforms (pauseContract.guard k) letThrough through
          (deferredPatch m out.2) fun _ _ => True := by
        cases hthrough : through with
        | true => exact (conforms_letThrough _).mono fun _ _ _ => trivial
        | false =>
          rcases hout.resolve_left (by simp [hthrough]) with hsame | ⟨p, hmarked⟩
          · rw [hsame, deferredPatch_self]
            trivial
          · rw [hmarked]
            exact conforms_deferredPatch_pause p
      refine hpatch.bind fun _ patchErr _ => ?_
      rcases out.1 with _ | ⟨res, err⟩ <;> trivial
  exact hpass.bind fun _ _ _ => trivial

/-- What a stopped pass asks for changes the Paused condition at most. -/
theorem onlyPaused_exec {r : Req} (hr : r.BeforePause) (a : Answer r) :
    OnlyPaused k w (exec k r a w).2 := by
  cases r with
  | getMachine => exact .refl k w
  | getOwnerMachine => exact .refl k w
  | getOwnerCluster o => exact .refl k w
  | ensurePausedCondition c recorded =>
    exact ensurePaused_rule (E := OnlyPaused k w) (.refl k w) fun _ hm => .set hm (Or.inr ⟨_, rfl⟩)
  | patchConditions before after =>
    obtain ⟨p, hnew, rfl⟩ := hr
    refine writeUnder_rule (E := fun _ w' => OnlyPaused k w w') (fun _ w' hw => ?_)
      fun _ _ => .refl k w
    simp only [World.write, World.patchConditions] at hw
    split at hw
    · cases hw
    · split at hw
      · cases hw
      · rename_i m hm _ cs hcs
        cases hw
        refine .set hm (Or.inr ⟨p, ?_⟩)
        rw [Conditions.merge_set hnew hcs]
        rfl
  | patchStatus p =>
    obtain rfl : p = _ := hr
    refine writeUnder_rule (E := fun _ w' => OnlyPaused k w w') (fun _ w' hw => ?_)
      fun _ _ => .refl k w
    simp only [World.write, World.patchStatus] at hw
    split at hw
    · cases hw
    · rename_i m hm
      cases hw
      exact .set hm (Or.inl rfl)
  | _ => exact hr.elim

end Pause

namespace Sample

def paused : Condition := ⟨.true_, "Paused", "Cluster spec.paused is set to true"⟩

def answersPaused : (r : Req) → Answer r
  | .ensurePausedCondition _ _ => (⟨paused, .none⟩ : PausedAnswer)
  | r => answers (fun _ => .none) r

def checking : State ObjectKey Req Resp World (View × Bool) :=
  (guarded ext).run (Controller.watched false (start ["p"]))
    (.env (.createMachine keyA false [] machineSpec) :: .start keyA ::
      List.replicate 3 (.exec keyA answersPaused))

end Sample

end Caphv.Machine
