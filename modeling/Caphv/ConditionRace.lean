import Caphv.FinalizerSafety

namespace Caphv.Machine

/-- The server carried the call out, whether or not the response arrived. -/
def Fault.takesEffect : Fault → Bool
  | .reject _ => false
  | _ => true

/-- The two lists hold the same condition under every type. -/
def SameConditions (a b : Conditions) : Prop := ∀ type, a.lookup type = b.lookup type

theorem step_patchClusterStatus {ext : Externals} {t : MachineState} {k ck : ObjectKey}
    {cs : Conditions} {f : Resp (.patchClusterStatus ck cs) → Prog Req Resp Unit}
    {stored : HarvesterCluster} {ans : (r : Req) → Answer r}
    (hpass : t.pass k = .call (.patchClusterStatus ck cs) f)
    (hstored : t.world.clusters.lookup ck = some stored)
    (heff : Fault.takesEffect (ans (.patchClusterStatus ck cs)) = true) :
    ((system ext).step t (.exec k ans)).world =
      t.world.setCluster ck { stored with status := { stored.status with conditions := cs } } := by
  have hw : t.world.write k (.patchClusterStatus ck cs) = .ok (t.world.setCluster ck
      { stored with status := { stored.status with conditions := cs } }) := by
    simp only [World.write, World.patchClusterStatus, hstored]
  have hexec : (exec k (.patchClusterStatus ck cs) (ans (.patchClusterStatus ck cs)) t.world).2 =
      t.world.setCluster ck { stored with status := { stored.status with conditions := cs } } := by
    show (t.world.writeUnder (ans (.patchClusterStatus ck cs)) k (.patchClusterStatus ck cs)).2 = _
    generalize (ans (.patchClusterStatus ck cs) : Fault) = fault at heff
    simp only [World.writeUnder, hw]
    cases fault with
    | none => rfl
    | reject msg => cases heff
    | lose msg => rfl
  simp only [Controller.step, hpass]
  exact hexec

/-- The patch that adds `InitMachineCreated` carries the conditions read at the start of the
pass: it leaves the others as they are stored exactly when none of them changed since. -/
theorem initMachineCreated_patch_iff (ext : Externals) (s : MachineState) (hs : s.Idle)
    (acts : List MachineAction) (k ck : ObjectKey) (cs : Conditions)
    (hreq : ((system ext).run s acts).request k = some (.patchClusterStatus ck cs))
    (stored : HarvesterCluster)
    (hstored : ((system ext).run s acts).world.clusters.lookup ck = some stored)
    (ans : (r : Req) → Answer r)
    (heff : Fault.takesEffect (ans (.patchClusterStatus ck cs)) = true) :
    ∃ read after, (((system ext).run s acts).view k).cluster = some (ck, read) ∧
      ((system ext).step ((system ext).run s acts) (.exec k ans)).world.clusters.lookup ck =
        some after ∧
      (SameConditions after.status.conditions
          (stored.status.conditions.set "InitMachineCreated" initMachineCreated) ↔
        ∀ type, type ≠ "InitMachineCreated" →
          stored.status.conditions.lookup type = read.status.conditions.lookup type) := by
  obtain ⟨f, hpass⟩ := State.exists_call_of_request hreq
  obtain ⟨m, read, hphase, -, hcs⟩ := (conforms_run hs acts).issue hpass
  refine ⟨read, { stored with status := { stored.status with conditions := cs } },
    hphase.cluster, ?_, ?_⟩
  · rw [step_patchClusterStatus hpass hstored heff]
    exact AList.lookup_insert _
  · simp only [SameConditions, hcs, Conditions.lookup_set]
    constructor
    · intro h type hne
      have := h type
      rw [if_neg hne, if_neg hne] at this
      exact this.symm
    · intro h type
      split_ifs with htype
      · rfl
      · exact (h type htype).symm

namespace Sample

def untilClusterPatch : List MachineAction :=
  created keyA [machineFinalizer] ++ calls 15 (fun _ => .none) keyA

def poolRecorded : HarvesterCluster :=
  { clusterWith ["p"] with
    status.conditions := Conditions.set ∅ "VMIPPoolCreatedByController"
      ⟨.true_, "VMIPPoolCreatedByController", ""⟩ }

end Sample

open Sample in
theorem initMachineCreated_patch_sample :
    ∃ read after, (((system ext).run (start ["p"]) untilClusterPatch).view keyA).cluster =
        some (clusterKey, read) ∧
      ((system ext).step ((system ext).run (start ["p"]) untilClusterPatch)
        (.exec keyA (answers fun _ => .none))).world.clusters.lookup clusterKey = some after ∧
      (SameConditions after.status.conditions
          ((clusterWith ["p"]).status.conditions.set "InitMachineCreated" initMachineCreated) ↔
        ∀ type, type ≠ "InitMachineCreated" →
          (clusterWith ["p"]).status.conditions.lookup type =
            read.status.conditions.lookup type) :=
  initMachineCreated_patch_iff ext (start ["p"]) (starts ["p"]).idle untilClusterPatch keyA
    clusterKey (Conditions.set ∅ "InitMachineCreated" initMachineCreated) (by decide +kernel)
    (clusterWith ["p"]) (by decide +kernel) (answers fun _ => .none) rfl

open Sample in
/-- A condition that is set between the read and the patch is lost. -/
theorem condition_lost_by_patch :
    let t := (system ext).run (start ["p"])
      (untilClusterPatch ++ [.env (.putCluster clusterKey poolRecorded)])
    let t' := (system ext).step t (.exec keyA (answers fun _ => .none))
    (t.world.clusters.lookup clusterKey).map
        (fun c => c.status.conditions.isTrue "VMIPPoolCreatedByController") = some true ∧
      (t'.world.clusters.lookup clusterKey).map
        (fun c => c.status.conditions.isTrue "InitMachineCreated") = some true ∧
      (t'.world.clusters.lookup clusterKey).map
        (fun c => c.status.conditions.isTrue "VMIPPoolCreatedByController") = some false := by
  decide +kernel

end Caphv.Machine
