import Caphv.MachineInvariants
import Caphv.PatchService

namespace Caphv.Machine

/-- The answers without the faults: what the API servers keep is read and written as asked. -/
def withoutFaults (answers : (r : Req) → Answer r) : (r : Req) → Answer r
  | .getMachine | .getHarvesterCluster _ | .getPool _ | .getVM _ | .getSecret _ | .listPVCs _
  | .patchClusterStatus _ _ | .patchConditions _ _ | .patchObject _ | .patchStatus _
  | .updatePool _ _ | .createVM _ _ _ | .deleteVM _ | .createSecret _ _ | .updateSecret _ _
  | .deleteSecret _ | .deletePVC _ => Fault.none
  | r => answers r

/-- The server of a pass of machine `k` that nothing disturbs. -/
def undisturbed (k : ObjectKey) (answers : (r : Req) → Answer r) (w : World) (r : Req) :
    Resp r × World := exec k r (withoutFaults answers r) w

/-- A pass over a machine with the Paused condition `recorded` gets as far as `ReconcileNormal` or
`ReconcileDelete`. -/
structure Connected (answers : (r : Req) → Answer r) (owner : OwnerMachine)
    (cluster : OwnerCluster) (recorded : Option Condition) : Prop where
  machine_owner : answers .getOwnerMachine =
    (.ok (some owner) : Except ApiError (Option OwnerMachine))
  owner_cluster : answers (.getOwnerCluster owner) =
    (.ok (some cluster) : Except ApiError (Option OwnerCluster))
  unpaused : PausedAnswer.LetsThrough (answers (.ensurePausedCondition cluster recorded)) recorded
  client : ∀ n, answers (.getIdentitySecret n) = (.ok true : Except ApiError Bool)

section Served

variable {ext : Externals} {k : ObjectKey} {answers : (r : Req) → Answer r} {w : World}
  {m s : HarvesterMachine} {c : HarvesterCluster} {owner : OwnerMachine} {cluster : OwnerCluster}

theorem writeUnder_none {r : Req} {w' : World} (hw : w.write k r = .ok w') :
    w.writeUnder .none k r = (.ok (), w') := by
  unfold World.writeUnder
  rw [hw]
  rfl

theorem writeUnder_none_error {r : Req} {e : ApiError} (hw : w.write k r = .error e) :
    w.writeUnder .none k r = (.error e, w) := by
  unfold World.writeUnder
  rw [hw]
  rfl

/-- The body of the pass is that of `ReconcileNormal` or `ReconcileDelete`. -/
theorem serves_reconcileBody
    (h : Connected answers owner cluster (m.status.conditions.lookup "Paused"))
    (hc : w.clusters.lookup cluster.infrastructureRef = some c)
    {Q : World → Option Outcome → HarvesterMachine → Prop}
    (hQ : Body.Serves (undisturbed k answers) w
      (if m.deleting then reconcileDelete ⟨k, cluster, owner, c, true⟩
        else reconcileNormal ext ⟨k, cluster, owner, c, true⟩) m Q) :
    Body.Serves (undisturbed k answers) w (reconcileBody ext k) m Q := by
  unfold reconcileBody
  refine .request_bind ?_
  rw [show undisturbed k answers w .getOwnerMachine = (answers .getOwnerMachine, w) from rfl,
    h.machine_owner]
  refine .request_bind ?_
  rw [show undisturbed k answers w (.getOwnerCluster owner) =
    (answers (.getOwnerCluster owner), w) from rfl, h.owner_cluster]
  refine .get_bind (.request_bind ?_)
  rw [show undisturbed k answers w (.ensurePausedCondition cluster _) = _ from
    ensurePaused_of_letsThrough h.unpaused]
  rw [if_neg (by simp)]
  refine .request_bind ?_
  rw [show undisturbed k answers w (.getHarvesterCluster cluster.infrastructureRef) =
    (found (w.clusters.lookup cluster.infrastructureRef), w) from rfl, hc]
  refine .request_bind ?_
  rw [show undisturbed k answers w (.getIdentitySecret c.spec.identitySecret) =
    (answers (.getIdentitySecret c.spec.identitySecret), w) from rfl, h.client]
  exact .get_bind hQ

def machineTable : TableIn World ObjectKey HarvesterMachine where
  table := World.machines
  put w t := { w with machines := t }
  put_table _ := rfl
  table_put _ _ := rfl
  put_put _ _ _ := rfl

/-- The stored machine has become the one in memory: the conditions may stand in another order,
and of the spec only what this controller writes is patched. -/
structure Patched (m s m' : HarvesterMachine) : Prop where
  controlPlane : m'.controlPlane = m.controlPlane
  deleting : m'.deleting = m.deleting
  finalizers : m'.finalizers = s.finalizers
  spec : m'.spec = ((ObjectPatch.between m s).apply m).spec
  status : { m'.status with conditions := s.status.conditions } = s.status
  conditions : ∀ type, m'.status.conditions.lookup type = s.status.conditions.lookup type
  same : s.status.conditions = m.status.conditions →
    m'.status.conditions = m.status.conditions

theorem sends_sendConditions (answers : (r : Req) → Answer r) (s : HarvesterMachine)
    (hm : w.machines.lookup k = some m) :
    ∃ cs, (∀ type, cs.lookup type = s.status.conditions.lookup type) ∧
      (s.status.conditions = m.status.conditions → cs = m.status.conditions) ∧
      machineTable.Sends (undisturbed k answers) k w (sendConditions m s)
        (some { m with status := { m.status with conditions := cs } }) := by
  refine TableIn.sends_conditions (L := machineTable)
    (fun cs => { m with status := { m.status with conditions := cs } }) hm fun cs hcs => ?_
  refine writeUnder_none ?_
  simp only [World.write, World.patchConditions, hm, hcs]
  rfl

theorem ObjectPatch.apply_between_self (m₁ : HarvesterMachine) (hf : m.finalizers = s.finalizers)
    (hspec : m.spec = s.spec) : (ObjectPatch.between m s).apply m₁ = m₁ := by
  simp only [ObjectPatch.between, ObjectPatch.apply, hf, hspec, changedTo, if_true,
    Option.join_none, Option.getD_none, HarvesterMachineSpec.setRequiredTerms]

theorem sends_sendObject (answers : (r : Req) → Answer r) (s : HarvesterMachine)
    {m₁ : HarvesterMachine} (hm : w.machines.lookup k = some m₁)
    (hf : m₁.finalizers = m.finalizers) (hheld : m₁.deleting = true → m.finalizers ≠ [])
    (hkeep : m₁.deleting = true → ∀ f ∈ s.finalizers, f ∈ m.finalizers) :
    machineTable.Sends (undisturbed k answers) k w (sendObject m s)
      (if m₁.deleting = true ∧ s.finalizers = [] then none
        else some ((ObjectPatch.between m s).apply m₁)) := by
  refine TableIn.sends_unless (fun hsame => ?_) rfl fun _ => ?_
  · have hkept : ¬ (m₁.deleting = true ∧ s.finalizers = []) := fun hgone =>
      hheld hgone.1 (hsame.1.trans hgone.2)
    rw [if_neg hkept, ObjectPatch.apply_between_self m₁ hsame.1 hsame.2]
    exact hm
  have hfin : ((ObjectPatch.between m s).apply m₁).finalizers = s.finalizers := by
    show (changedTo m.finalizers s.finalizers).getD m₁.finalizers = _
    rw [hf, getD_changedTo]
  have hnew : ¬ (m₁.deleting = true ∧
      ∃ f ∈ ((ObjectPatch.between m s).apply m₁).finalizers, f ∉ m₁.finalizers) := by
    rintro ⟨hd, f, hmem, hnot⟩
    rw [hfin] at hmem
    exact hnot (hf ▸ hkeep hd f hmem)
  split_ifs with hgone
  · refine ⟨_, writeUnder_none ?_, .erase machineTable w⟩
    simp only [World.write, World.patchObject, hm]
    rw [if_neg hnew, if_pos ⟨hgone.1, hfin.trans hgone.2⟩]
    rfl
  · refine ⟨_, writeUnder_none ?_, .insert machineTable w _⟩
    simp only [World.write, World.patchObject, hm]
    rw [if_neg hnew, if_neg fun h => hgone ⟨h.1, hfin.symm.trans h.2⟩]
    rfl

theorem StatusPatch.apply_between {st₁ : HarvesterMachineStatus} {cs : Conditions}
    (h : st₁ = { m.status with conditions := cs }) :
    (StatusPatch.between m.status s.status).apply st₁ = { s.status with conditions := cs } := by
  subst h
  simp only [StatusPatch.between, StatusPatch.apply, getD_changedTo]

theorem sends_sendStatus (answers : (r : Req) → Answer r) (s : HarvesterMachine)
    {m₂ : HarvesterMachine} {cs : Conditions} (hm : w.machines.lookup k = some m₂)
    (hst : m₂.status = { m.status with conditions := cs }) :
    machineTable.Sends (undisturbed k answers) k w (sendStatus m s)
      (some { m₂ with status := { s.status with conditions := cs } }) := by
  refine TableIn.sends_unless (fun hsame => ?_) rfl fun _ => ?_
  · rw [← hsame, ← hst]
    exact hm
  · refine ⟨_, writeUnder_none ?_, .insert machineTable w _⟩
    simp only [World.write, World.patchStatus, hm, StatusPatch.apply_between hst]
    rfl

/-- An object that went away with its last finalizer has no status to patch. -/
theorem sends_sendStatus_gone (hm : w.machines.lookup k = none) (hd : s.deleting = true)
    (hf : s.finalizers = []) :
    machineTable.Sends (undisturbed k answers) k w (sendStatus m s) none := by
  refine TableIn.sends_missing hm (writeUnder_none_error ?_) (if_pos ⟨rfl, hd, hf⟩)
  simp only [World.write, World.patchStatus, hm]

/-- The deferred patch stores what the pass has made of the machine, and the machine goes with
its last finalizer. -/
theorem serve_deferredPatch (answers : (r : Req) → Answer r) (s : HarvesterMachine)
    (hm : w.machines.lookup k = some m) (hd : s.deleting = m.deleting)
    (hheld : m.deleting = true → m.finalizers ≠ [])
    (hkeep : m.deleting = true → ∀ f ∈ s.finalizers, f ∈ m.finalizers) :
    ∃ m', Patched m s m' ∧ machineTable.Sends (undisturbed k answers) k w (deferredPatch m s)
      (if m.deleting = true ∧ s.finalizers = [] then none else some m') := by
  obtain ⟨cs, hcs, hsame, hsends⟩ := sends_sendConditions answers s hm
  refine ⟨{ (ObjectPatch.between m s).apply { m with status := { m.status with conditions := cs } }
    with status := { s.status with conditions := cs } }, ?_, ?_⟩
  · exact ⟨rfl, rfl, getD_changedTo _ _, rfl, rfl, hcs, hsame⟩
  · refine hsends.parts (fun _ hm₁ => sends_sendObject answers s hm₁ rfl hheld hkeep)
      fun _ hm₂ => ?_
    split_ifs at hm₂ ⊢ with hgone
    · exact sends_sendStatus_gone hm₂ (hd.trans hgone.1) hgone.2
    · exact sends_sendStatus answers s hm₂ rfl

/-- Nothing is sent for an object that has not changed. -/
theorem deferredPatch_self (m : HarvesterMachine) : deferredPatch m m = pure none := by
  simp only [deferredPatch, sendConditions, sendObject, sendStatus, Conditions.changed_self,
    and_self, if_true]
  rfl

/-- Where only the finalizers have changed, the stored machine is the one in memory. -/
theorem Patched.eq_of_finalizers {m' : HarvesterMachine} {fs : List String}
    (h : Patched m { m with finalizers := fs } m') : m' = { m with finalizers := fs } := by
  have hspec : m'.spec = m.spec := by
    rw [h.spec]
    simp [ObjectPatch.between, ObjectPatch.apply, changedTo, HarvesterMachineSpec.setRequiredTerms]
  have hstatus : m'.status = m.status := by
    have hst := h.status
    dsimp only at hst
    rwa [← h.same rfl] at hst
  cases m'
  simp only [HarvesterMachine.mk.injEq]
  exact ⟨h.controlPlane, h.finalizers, h.deleting, hspec, hstatus⟩

/-- A pass over a stored machine: the body, and then the deferred patch. -/
theorem serve_reconcile (h : Connected answers owner cluster (m.status.conditions.lookup "Paused"))
    (hm : w.machines.lookup k = some m)
    (hc : w.clusters.lookup cluster.infrastructureRef = some c)
    {Q : World → Option Outcome → HarvesterMachine → Prop}
    (hbody : Body.Serves (undisturbed k answers) w
      (if m.deleting then reconcileDelete ⟨k, cluster, owner, c, true⟩
        else reconcileNormal ext ⟨k, cluster, owner, c, true⟩) m Q) :
    ∃ w₁ out s, Q w₁ out s ∧ ∀ w₂,
      Prog.serve (undisturbed k answers) w₁ (deferredPatch m s) = (none, w₂) →
      Prog.serve (undisturbed k answers) w (reconcile ext k) =
        (out.getD (.empty, some "panic"), w₂) := by
  refine ⟨_, _, _, serves_reconcileBody h hc hbody, fun w₂ hpatch => ?_⟩
  refine (Prog.serve_request_bind _ _ _).trans ?_
  rw [show undisturbed k answers w .getMachine = (found (w.machines.lookup k), w) from rfl, hm]
  refine (Prog.serve_bind _ _ _).trans ?_
  refine (Prog.serve_bind _ _ _).trans ?_
  rw [hpatch]
  rcases (Prog.serve (undisturbed k answers) w (reconcileBody ext k m)).1 with ⟨_ | ⟨res, err⟩, s⟩
  · rfl
  · dsimp only
    rw [Option.or_none]
    rfl

/-- A pass over a machine that is gone. -/
theorem serve_reconcile_gone (ext : Externals) (hm : w.machines.lookup k = none) :
    Prog.serve (undisturbed k answers) w (reconcile ext k) = ((.empty, none), w) := by
  refine (Prog.serve_request_bind _ _ _).trans ?_
  rw [show undisturbed k answers w .getMachine = (found (w.machines.lookup k), w) from rfl, hm]
  rfl

end Served

end Caphv.Machine
