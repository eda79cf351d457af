import Caphv.MachineController

namespace Caphv.Machine

open Body (Maintains)

/-! Each part keeps what its own requests and its own writes keep, whatever is asked of the
requests and whatever is tracked beside the machine. -/

section Routines

variable {σ : Type} {P : σ → Req → Prop} {next : σ → (r : Req) → Resp r → σ}
  {I : σ → HarvesterMachine → Prop} {ext : Externals} {sc : Scope}

abbrev Harmless (P : σ → Req → Prop) (next : σ → (r : Req) → Resp r → σ)
    (I : σ → HarvesterMachine → Prop) (r : Req) : Prop :=
  Maintains P next I (Body.request r : Pass (Resp r))

theorem maintains_harvester {r : Req} (hr : Harmless P next I r) :
    Maintains P next I (sc.harvester r) := by
  unfold Scope.harvester
  split_ifs
  · exact hr
  · exact .panic

theorem maintains_allocateFrom (hget : ∀ n, Harmless P next I (.getPool n))
    (hupdate : ∀ n pool, Harmless P next I (.updatePool n pool))
    (hrecord : ∀ ip poolRef, Maintains P next I (recordAllocation ip poolRef))
    (poolRefs refs : List String) (lastErr : Option String) (skipped : ℕ) :
    Maintains P next I (allocateFrom ext sc poolRefs refs lastErr skipped) := by
  induction refs generalizing lastErr skipped with
  | nil =>
    refine .bind .get fun s => ?_
    cases lastErr with
    | none =>
      dsimp only
      split_ifs <;> exact .pure _
    | some err => exact .pure _
  | cons poolRef rest ih =>
    unfold allocateFrom
    refine .bind (maintains_harvester (hget _)) fun got => ?_
    cases got with
    | error err => exact ih _ _
    | ok pool =>
      dsimp only
      cases existingAllocation pool sc.key.id with
      | some ip => exact .bind (hrecord _ _) fun _ => .pure _
      | none =>
        refine .bind .get fun s => ?_
        split_ifs
        · exact ih _ _
        · cases allocateVMIPFromPool ext.allocator pool sc.key.id with
          | panic => exact .panic
          | err msg => exact ih _ _
          | ok out =>
            refine .bind (maintains_harvester (hupdate _ _)) fun updated => ?_
            cases updated with
            | error err => exact .pure _
            | ok u => exact .bind (hrecord _ _) fun _ => .pure _

theorem maintains_allocateVMIP (hget : ∀ n, Harmless P next I (.getPool n))
    (hupdate : ∀ n pool, Harmless P next I (.updatePool n pool))
    (hrecord : ∀ ip poolRef, Maintains P next I (recordAllocation ip poolRef)) :
    Maintains P next I (allocateVMIP ext sc) := by
  refine .bind .get fun s => ?_
  split_ifs
  · exact .pure _
  · cases effectiveVMNetworkConfig s sc.harvesterCluster with
    | none => exact .pure _
    | some cfg =>
      dsimp only
      split_ifs
      · exact .pure _
      · exact maintains_allocateFrom hget hupdate hrecord _ _ _ _

theorem maintains_resolveNetworkConfig (hget : ∀ n, Harmless P next I (.getPool n))
    (hupdate : ∀ n pool, Harmless P next I (.updatePool n pool))
    (hrecord : ∀ ip poolRef, Maintains P next I (recordAllocation ip poolRef))
    (hcond : ∀ c, Maintains P next I (setCondition "VMIPAllocated" c)) :
    Maintains P next I (resolveNetworkConfig ext sc) := by
  refine .bind .get fun s => ?_
  split
  · refine .bind (maintains_allocateVMIP hget hupdate hrecord) fun allocated => ?_
    cases allocated with
    | error err => exact .bind (hcond _) fun _ => .pure _
    | ok u => exact .bind .get fun _ => .bind (hcond _) fun _ => .pure _
  · exact .pure _

theorem maintains_releaseVMIP (hget : ∀ n, Harmless P next I (.getPool n))
    (hupdate : ∀ n pool, Harmless P next I (.updatePool n pool)) :
    Maintains P next I (releaseVMIP sc) := by
  refine .bind .get fun s => ?_
  dsimp only
  split_ifs
  · exact .pure _
  · refine .bind (maintains_harvester (hget _)) fun got => ?_
    cases got with
    | error err => exact .pure _
    | ok pool =>
      dsimp only
      cases Net.parseIP s.status.allocatedIPAddress with
      | none => exact .pure _
      | some ip => exact .bind (maintains_harvester (hupdate _ _)) fun _ => .pure _

theorem maintains_buildPVCs (hrandom : Harmless P next I .randomID)
    (himages : ∀ ns, Harmless P next I (.listImages ns)) (vmName ns : String) (i : ℕ)
    (vols : List Volume) : Maintains P next I (buildPVCs sc vmName ns i vols) := by
  have himage : ∀ name, Maintains P next I (getImageByName sc name ns) := by
    intro name
    unfold getImageByName
    cases getNamespacedName name ns with
    | error err => exact .pure _
    | ok ref =>
      refine .bind (maintains_harvester (himages _)) fun got => ?_
      cases got <;> exact .pure _
  have hvolume : ∀ vol name, Maintains P next I (buildPVCForVolume sc vol name ns) := by
    intro vol name
    unfold buildPVCForVolume
    cases vol.volumeSize with
    | none => exact .panic
    | some size =>
      dsimp only
      cases vol.volumeType with
      | image =>
        refine .bind (himage _) fun got => ?_
        cases got <;> exact .pure _
      | storageClass => exact .pure _
  induction vols generalizing i with
  | nil => exact .pure _
  | cons vol vols ih =>
    refine .bind hrandom fun randomID => .bind (hvolume _ _) fun built => ?_
    cases built with
    | error err => exact .pure _
    | ok pvc => exact .bind (ih _) fun _ => .pure _

theorem maintains_getCloudInitData (hget : ∀ n, Harmless P next I (.getBootstrapSecret n))
    (dataSecretName : String) : Maintains P next I (getCloudInitData sc dataSecretName) := by
  refine .bind (hget _) fun got => ?_
  rcases got with err | (- | userData) <;> exact .pure _

theorem maintains_ensureCloudInitSecret (hget : ∀ n, Harmless P next I (.getSecret n))
    (hcreate : ∀ n data, Harmless P next I (.createSecret n data))
    (hupdate : ∀ n data, Harmless P next I (.updateSecret n data)) (n : NamespacedName)
    (data : CloudInitSecret) : Maintains P next I (ensureCloudInitSecret sc n data) := by
  refine .bind (maintains_harvester (hget _)) fun got => ?_
  cases got with
  | error err =>
    dsimp only
    split_ifs
    · refine .bind (maintains_harvester (hcreate _ _)) fun created => ?_
      cases created <;> exact .pure _
    · exact .pure _
  | ok old =>
    refine .bind (maintains_harvester (hupdate _ _)) fun updated => ?_
    cases updated <;> exact .pure _

theorem maintains_buildVMTemplate {dataSecretName : String}
    (hkey : ∀ n, Harmless P next I (.getKeyPair n))
    (hdata : Maintains P next I (getCloudInitData sc dataSecretName))
    (hsecret : ∀ n data, Maintains P next I (ensureCloudInitSecret sc n data))
    (haffinity : Maintains P next I (Body.modify fun s =>
      (buildAffinity sc.key.name sc.machine sc.harvesterCluster s).2))
    (netCfg : Option NetworkConfig) :
    Maintains P next I (buildVMTemplate ext sc dataSecretName netCfg) := by
  refine .bind .get fun s => ?_
  cases getNamespacedName s.spec.sshKeyPair sc.harvesterCluster.spec.targetNamespace with
  | error err => exact .pure _
  | ok keyPair =>
    refine .bind (maintains_harvester (hkey _)) fun got => ?_
    cases got with
    | error err =>
      dsimp only
      split_ifs <;> exact .pure _
    | ok publicKey =>
      refine .bind hdata fun data => ?_
      cases data with
      | error err => exact .pure _
      | ok userData =>
        dsimp only
        cases cloudInitSecret ext sc s netCfg publicKey userData with
        | error err => exact .pure _
        | ok secret =>
          refine .bind (hsecret _ _) fun ensured => ?_
          cases ensured with
          | error err => exact .pure _
          | ok u =>
            refine .bind haffinity fun _ => ?_
            split_ifs
            · exact .pure _
            · exact .panic

theorem maintains_initializeWorkloadNode
    (hcfg : ∀ cluster, Harmless P next I (.getWorkloadClusterConfig cluster))
    (hnode : ∀ name id, Harmless P next I (.initializeWorkloadNode name id)) :
    Maintains P next I (initializeWorkloadNode sc) := by
  refine .bind .get fun s => ?_
  split_ifs
  · exact .pure _
  · refine .bind (hcfg _) fun cfg => ?_
    cases cfg with
    | error err => exact .pure _
    | ok u => exact hnode _ _

theorem maintains_patchInitMachineCreated
    (hpatch : ∀ k conditions, Harmless P next I (.patchClusterStatus k conditions)) :
    Maintains P next I (patchInitMachineCreated sc) := by
  unfold patchInitMachineCreated
  dsimp only
  split_ifs
  · exact .pure _
  · exact .bind (hpatch _ _) fun _ => .pure _

end Routines

end Caphv.Machine
