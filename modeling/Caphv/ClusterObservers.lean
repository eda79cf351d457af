import Caphv.ClusterConformance

namespace Caphv.Cluster

section Maintains

variable {σ : Type} {P : σ → Req → Prop} {next : σ → (r : Req) → Resp r → σ}
  {I : σ → HarvesterCluster → Prop} {ext : Externals} {k : ObjectKey}

theorem maintains_reconcileNormal {sc : Scope}
    (hinfra : Body.Maintains P next I (reconcileInfrastructure ext sc))
    (hfinalizers : ∀ f : List String → List String,
      Body.Maintains P next I (Body.modify fun s => { s with finalizers := f s.finalizers })) :
    Body.Maintains P next I (reconcileNormal ext sc) := by
  unfold reconcileNormal
  refine .bind .get fun s => ?_
  split_ifs
  · exact .bind (hfinalizers migrateFinalizer) fun _ => .pure _
  · exact hinfra
  · exact .bind (hfinalizers (addFinalizer · clusterFinalizer)) fun _ => .pure _

theorem maintains_reconcileBody (h : Indifferent P next I)
    (hpause : ∀ owner recorded, Harmless P next I (.ensurePausedCondition owner recorded))
    (hready : Body.Maintains P next I (setReady false))
    (hnormal : ∀ owner, Body.Maintains P next I (reconcileNormal ext ⟨k, owner⟩))
    (hdelete : ∀ owner, Body.Maintains P next I (reconcileDelete ⟨k, owner⟩)) :
    Body.Maintains P next I (reconcileBody ext k) := by
  unfold reconcileBody
  refine .bind (h.call rfl) fun owner => ?_
  rcases owner with err | (- | owner)
  · exact .pure _
  · exact .pure _
  refine .bind .get fun _ => .bind (hpause _ _) fun paused => ?_
  split_ifs
  · exact .bind (maintains_recordPaused h paused) fun _ => .pure _
  refine .bind (maintains_reconcileHarvesterConfig h hready) fun config => ?_
  cases config with
  | error err => exact .pure _
  | ok kubeconfig =>
    dsimp only
    split
    · exact .pure _
    · refine .bind .get fun s => ?_
      split_ifs
      · exact hdelete owner
      · exact hnormal owner

structure AllowsPatches (P : σ → Req → Prop) (before after : HarvesterCluster) : Prop where
  conditions : ∀ e, P e (.patchConditions before.status.conditions after.status.conditions)
  object : ∀ e, P e (.patchObject (.between before after))
  status : ∀ e, P e (.patchStatus (.between before.status after.status))

theorem conforms_patchHelper_of_allows {before after : HarvesterCluster}
    (h : AllowsPatches P before after) (e : σ) :
    Prog.Conforms P next e (patchHelper before after) fun _ _ => True := by
  have hconditions : ∀ e, Prog.Conforms P next e (sendConditions before after)
      fun _ _ => True := by
    intro e
    unfold sendConditions
    split_ifs
    · trivial
    · exact ⟨h.conditions e, fun _ => trivial⟩
  have hobject : ∀ e, Prog.Conforms P next e (sendObject before after) fun _ _ => True := by
    intro e
    unfold sendObject
    split_ifs
    · trivial
    · exact ⟨h.object e, fun _ => trivial⟩
  have hstatus : ∀ e, Prog.Conforms P next e (sendStatus before after) fun _ _ => True := by
    intro e
    unfold sendStatus
    split_ifs
    · trivial
    · refine ⟨h.status e, fun out => ?_⟩
      cases out with
      | ok u => trivial
      | error err =>
        dsimp only [Prog.bind]
        split_ifs <;> trivial
  unfold patchHelper
  exact (hconditions e).bind fun e₁ _ _ => (hobject e₁).bind fun e₂ _ _ =>
    (hstatus e₂).bind fun _ _ _ => trivial

def PatchTo (s : HarvesterCluster) : Req → Prop
  | .patchConditions _ after => after = s.status.conditions
  | .patchObject _ => True
  | .patchStatus _ => True
  | _ => False

theorem patches_patchHelper (c s : HarvesterCluster) :
    Prog.Conforms (fun (_ : Unit) r => PatchTo s r) (fun u _ _ => u) () (patchHelper c s)
      fun _ _ => True := by
  have h : AllowsPatches (fun (_ : Unit) r => PatchTo s r) c s :=
    ⟨fun _ => rfl, fun _ => trivial, fun _ => trivial⟩
  exact conforms_patchHelper_of_allows h ()

/-- A patch fails and leaves the world, or it writes the stored cluster. -/
theorem PatchTo.exec_rule {s : HarvesterCluster} {r : Req} (hr : PatchTo s r) {k : ObjectKey}
    {w : World} (a : Answer r) {E : World → Prop} (hfailed : E w)
    (hconditions : ∀ before c cs, w.clusters.lookup k = some c →
      Conditions.merge before s.status.conditions c.status.conditions = some cs →
        E (w.setCluster k { c with status := { c.status with conditions := cs } }))
    (hobject : ∀ c (p : ObjectPatch), w.clusters.lookup k = some c → E (w.setCluster k (p.apply c)))
    (hgone : E { w with clusters := w.clusters.erase k })
    (hstatus : ∀ c (p : StatusPatch), w.clusters.lookup k = some c →
      E (w.setCluster k { c with status := p.apply c.status })) : E (exec k r a w).2 := by
  cases r with
  | patchConditions before after =>
    obtain rfl : after = s.status.conditions := hr
    refine Fault.write_rule (E := fun _ w' => E w') (fun _ _ w' hout _ => ?_) fun _ _ => hfailed
    unfold World.patchConditions at hout
    split at hout
    · cases hout
    next c hc =>
    split at hout
    · cases hout
    next cs hcs =>
    cases hout
    exact hconditions before c cs hc hcs
  | patchObject p =>
    refine Fault.write_rule (E := fun _ w' => E w') (fun _ _ w' hout _ => ?_) fun _ _ => hfailed
    unfold World.patchObject at hout
    split at hout
    · cases hout
    next c hc =>
    dsimp only at hout
    split_ifs at hout
    · cases hout
      exact hgone
    · cases hout
      exact hobject c p hc
  | patchStatus p =>
    refine Fault.write_rule (E := fun _ w' => E w') (fun _ _ w' hout _ => ?_) fun _ _ => hfailed
    unfold World.patchStatus at hout
    split at hout
    · cases hout
    next c hc =>
    cases hout
    exact hstatus c p hc
  | _ => exact hr.elim

/-- An observer whose guard is kept by the body of every pass, from the cluster that was read on,
and allows the patches: then all passes keep to its contract beside that of the controller. -/
theorem keeps_observed {fresh : σ} {guard : ObjectKey → σ → Req → Prop}
    {J : HarvesterCluster → σ → HarvesterCluster → Prop}
    (hpatches : ∀ k before after, AllowsPatches (guard k) before after)
    (hget : ∀ k, guard k fresh .getCluster)
    (hstart : ∀ c, J c (next fresh .getCluster (.ok c)) c)
    (hbody : ∀ k c, Body.Maintains (guard k) next (J c) (reconcileBody ext k)) :
    ((system ext).observe next fresh).Keeps (contract.both ⟨guard, fun _ _ => True⟩) := by
  refine (keeps_contract ext).observe fun k => ?_
  show Prog.Conforms (guard k) next fresh (reconcile ext k >>= fun _ => pure ()) fun _ _ => True
  refine Prog.Conforms.bind (R := fun _ _ => True) ?_ fun _ _ _ => trivial
  unfold reconcile
  refine .request_bind (hget k) fun got => ?_
  cases got with
  | error err =>
    dsimp only
    split_ifs <;> trivial
  | ok c =>
    show Prog.Conforms _ _ _ (reconcileRead ext k c) _
    unfold reconcileRead
    refine Prog.Conforms.bind (hbody k c _ c (hstart c)) fun e out _ => ?_
    refine (conforms_patchHelper_of_allows (hpatches k c (mirrorReady out.2)) e).bind
      fun _ _ _ => ?_
    cases out.1 <;> trivial

end Maintains

end Caphv.Cluster
