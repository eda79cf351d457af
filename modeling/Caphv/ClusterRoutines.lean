import Caphv.ClusterController

namespace Caphv.Cluster

/-! Each part keeps what its own requests and its own writes keep, whatever is asked of the requests
and whatever is tracked beside the cluster. -/

/-- All requests but the reads and the patches of the cluster itself, the writes of pools, the
removal of the load balancer, and the objects of the cloud provider and of Fleet. -/
def Req.common : Req → Bool
  | .getCluster => false
  | .ensurePausedCondition _ _ => false
  | .createPool _ _ => false
  | .updatePool _ _ => false
  | .deletePool _ => false
  | .deleteLoadBalancer _ => false
  | .updateConfigMap _ _ => false
  | .updateFleetCluster _ _ => false
  | .patchConditions _ _ => false
  | .patchObject _ => false
  | .patchStatus _ => false
  | _ => true

/-- The conditions that no pass of the controller reads, beside the check for the pause. -/
def reports : List String :=
  ["HarvesterConnectionReady", "VMIPPoolReady", "TargetNamespaceReady", "InfrastructureReady",
    "Paused"]

section Routines

variable {σ : Type} {P : σ → Req → Prop} {next : σ → (r : Req) → Resp r → σ}
  {I : σ → HarvesterCluster → Prop} {ext : Externals} {sc : Scope}

abbrev Harmless (P : σ → Req → Prop) (next : σ → (r : Req) → Resp r → σ)
    (I : σ → HarvesterCluster → Prop) (r : Req) : Prop :=
  Body.Maintains P next I (call r)

/-- What is kept by the requests and by the writes that all parts of a pass share. -/
structure Indifferent (P : σ → Req → Prop) (next : σ → (r : Req) → Resp r → σ)
    (I : σ → HarvesterCluster → Prop) : Prop where
  call : ∀ {r : Req}, r.common = true → Harmless P next I r
  report : ∀ {type : String}, type ∈ reports → ∀ cond : Condition,
    Body.Maintains P next I (setCondition type cond)
  server : ∀ server : String,
    Body.Maintains P next I (modifySpec fun spec => { spec with server := server })
  failureDomains : ∀ domains : List FailureDomain,
    Body.Maintains P next I (modifyStatus fun st => { st with failureDomains := domains })

theorem maintains_recordPaused (h : Indifferent P next I) (paused : PausedResult) :
    Body.Maintains P next I (recordPaused paused) := by
  unfold recordPaused
  split
  · exact .pure ()
  · exact h.report (by decide) _

theorem maintains_reconcileHarvesterConfig (h : Indifferent P next I)
    (hready : Body.Maintains P next I (setReady false)) :
    Body.Maintains P next I (reconcileHarvesterConfig ext) := by
  have hnotReady : ∀ reason message,
      Body.Maintains P next I (connectionNotReady reason message) :=
    fun _ _ => h.report (by decide) _
  have hfail : ∀ reason message e, Body.Maintains P next I (do
      connectionNotReady reason message
      pure (.error e : Except String String)) :=
    fun _ _ _ => .bind (hnotReady _ _) fun _ => .pure _
  have hunset : ∀ reason message e, Body.Maintains P next I (do
      setReady false
      connectionNotReady reason message
      pure (.error e : Except String String)) :=
    fun _ _ _ => .bind hready fun _ => hfail _ _ _
  refine .bind (hnotReady _ _) fun _ => .bind .get fun s => .bind (h.call rfl) fun secret => ?_
  cases secret with
  | error e => exact hunset _ _ _
  | ok kubeconfig =>
    dsimp only
    split
    · exact hunset _ _ _
    refine .bind (h.server _) fun _ => ?_
    split
    · exact hfail _ _ _
    split
    · exact hfail _ _ _
    refine .bind (h.call rfl) fun deployment => ?_
    cases deployment with
    | error e => exact hfail _ _ _
    | ok conditions =>
      dsimp only
      split_ifs
      · exact hfail _ _ _
      · exact .bind (h.report (by decide) _) fun _ => .pure _

theorem maintains_verifyPools (h : Indifferent P next I) (refs readyPools : List String) :
    Body.Maintains P next I (verifyPools refs readyPools) := by
  induction refs generalizing readyPools with
  | nil => exact .pure _
  | cons ref refs ih =>
    refine .bind (h.call rfl) fun got => ?_
    cases got with
    | error e => exact .bind (h.report (by decide) _) fun _ => .pure _
    | ok pool => exact ih _

theorem maintains_createVMIPPool (h : Indifferent P next I)
    (hcreate : ∀ spec, Harmless P next I (.createPool sc.key.vmPoolName spec))
    (href : Body.Maintains P next I (setVMPoolRef sc.key.vmPoolName))
    (hrecord : ∀ cond, Body.Maintains P next I (setCondition "VMIPPoolCreatedByController" cond))
    (p : IpPoolSpec) : Body.Maintains P next I (createVMIPPool sc p) := by
  refine .bind (hcreate _) fun created => ?_
  cases created with
  | error e =>
    dsimp only
    split_ifs
    · refine .bind (h.call rfl) fun got => ?_
      cases got with
      | error e => exact .pure _
      | ok pool => exact .bind href fun _ => .pure _
    · exact .bind (h.report (by decide) _) fun _ => .pure _
  | ok pool =>
    exact .bind href fun _ => .bind (hrecord _) fun _ => .bind (h.report (by decide) _) fun _ =>
      .pure _

theorem maintains_reconcileVMIPPool (h : Indifferent P next I)
    (href : Body.Maintains P next I (setVMPoolRef sc.key.vmPoolName))
    (hcreate : ∀ p, Body.Maintains P next I (createVMIPPool sc p)) :
    Body.Maintains P next I (reconcileVMIPPool sc) := by
  refine .bind .get fun s => ?_
  cases s.spec.vmNetworkConfig with
  | none => exact .pure _
  | some vmNetCfg =>
    dsimp only
    split_ifs
    · refine .bind (maintains_verifyPools h _ _) fun verified => ?_
      cases verified with
      | error e => exact .pure _
      | ok readyPools => exact .bind (h.report (by decide) _) fun _ => .pure _
    · cases vmNetCfg.ipPool with
      | none => exact .pure _
      | some p =>
        refine .bind (h.call rfl) fun existing => ?_
        cases existing with
        | ok pool => exact .bind href fun _ => .bind (h.report (by decide) _) fun _ => .pure _
        | error e =>
          dsimp only
          split_ifs
          · exact hcreate p
          · exact .pure _

theorem maintains_createIPPoolIfNotExists (h : Indifferent P next I)
    (hcreate : ∀ spec, Harmless P next I (.createPool sc.key.lbPoolName spec))
    (hrecord : ∀ cond, Body.Maintains P next I (appendCondition "CustomIPPoolCreated" cond))
    (hready : Body.Maintains P next I (setReady false)) :
    Body.Maintains P next I (createIPPoolIfNotExists sc) := by
  unfold createIPPoolIfNotExists
  -- Left in place, the generated name is evaluated where the code compares it with "".
  generalize sc.key.lbPoolName = name at hcreate ⊢
  refine .bind .get fun s => .bind (hcreate _) fun created => ?_
  cases created with
  | error e =>
    dsimp only
    split_ifs
    · refine .bind (h.call rfl) fun got => ?_
      cases got <;> exact .pure _
    · exact .bind (hrecord _) fun _ => .bind hready fun _ => .pure _
  | ok pool =>
    dsimp only
    split_ifs
    · exact .pure _
    · exact .bind (hrecord _) fun _ => .bind hready fun _ => .pure _

theorem maintains_getIPFromIPPool (h : Indifferent P next I)
    (hcreate : Body.Maintains P next I (createIPPoolIfNotExists sc))
    (href : ∀ name, Body.Maintains P next I (setLBPoolRef name))
    (hupdate : ∀ name pool, Harmless P next I (.updatePool name pool))
    (lbNamespacedName : String) :
    Body.Maintains P next I (getIPFromIPPool ext sc lbNamespacedName) := by
  have hpool : Body.Maintains P next I (lbPool sc) := by
    refine .bind .get fun s => ?_
    dsimp only
    split_ifs
    · exact .pure _
    · refine .bind hcreate fun created => ?_
      cases created with
      | error e => exact .pure _
      | ok got => exact .bind (href _) fun _ => .pure _
    · refine .bind (h.call rfl) fun got => ?_
      cases got <;> exact .pure _
  refine .bind .get fun s => .bind hpool fun got => ?_
  cases got with
  | error e => exact .pure _
  | ok got =>
    dsimp only
    split_ifs
    · exact .pure _
    · unfold allocateIPFromPool
      cases chooseIPFromPool ext.allocator got.2 lbNamespacedName with
      | panic => exact .panic
      | err e => exact .pure _
      | ok chosen =>
        refine .bind (hupdate _ _) fun updated => ?_
        cases updated <;> exact .pure _

theorem maintains_reconcileTargetNamespace (h : Indifferent P next I) :
    Body.Maintains P next I reconcileTargetNamespace := by
  have hset : ∀ cond, Body.Maintains P next I (setCondition "TargetNamespaceReady" cond) :=
    h.report (by decide)
  refine .bind (hset _) fun _ => .bind .get fun s => .bind (h.call rfl) fun got => ?_
  cases got with
  | ok u => exact hset _
  | error e =>
    dsimp only
    split_ifs
    · refine .bind (h.call rfl) fun created => ?_
      cases created <;> exact hset _
    · exact hset _

theorem maintains_reconcileFailureDomains (h : Indifferent P next I) :
    Body.Maintains P next I reconcileFailureDomains := by
  refine .bind (h.call rfl) fun got => ?_
  cases got with
  | error e => exact .pure _
  | ok nodes => exact h.failureDomains _

theorem maintains_existingInHarvester (h : Indifferent P next I) (ns : String)
    (machines acc : List ObjectKey) :
    Body.Maintains P next I (existingInHarvester ns machines acc) := by
  induction machines generalizing acc with
  | nil => exact .pure _
  | cons machine rest ih =>
    refine .bind (h.call rfl) fun got => ?_
    cases got with
    | error e =>
      dsimp only
      split_ifs
      · exact ih _
      · exact ih _
    | ok u => exact ih _

theorem maintains_getOwnedCPHarversterMachines (h : Indifferent P next I) :
    Body.Maintains P next I (getOwnedCPHarversterMachines sc) := by
  refine .bind (h.call rfl) fun listed => ?_
  cases listed with
  | error e =>
    dsimp only
    split_ifs <;> exact .pure _
  | ok machines =>
    exact .bind .get fun s => .bind (maintains_existingInHarvester h _ _ _) fun _ => .pure _

theorem maintains_reconcilePlaceholder (h : Indifferent P next I)
    (hip : ∀ name, Body.Maintains P next I (getIPFromIPPool ext sc name))
    (hendpoint : ∀ host, Body.Maintains P next I (setControlPlaneEndpoint host))
    (hready : Body.Maintains P next I (setReady true)) :
    Body.Maintains P next I (reconcilePlaceholder ext sc) := by
  have hrefresh : ∀ svc, Body.Maintains P next I (refreshPlaceholder ext sc svc) := by
    intro svc
    refine .bind .get fun s => ?_
    split_ifs
    · refine .bind (hip _) fun newIP => ?_
      cases newIP with
      | error e => exact .pure _
      | ok ip =>
        refine .bind (h.call rfl) fun updated => ?_
        cases updated <;> exact .pure _
    · exact .pure _
  have hcreate : Body.Maintains P next I (createPlaceholder ext sc) := by
    refine .bind .get fun s => ?_
    have hplaceholder : Body.Maintains P next I (placeholderIP ext sc s) := by
      unfold placeholderIP
      split_ifs
      · exact hip _
      · exact .pure _
    refine .bind hplaceholder fun lbIP => ?_
    cases lbIP with
    | error e => exact .pure _
    | ok ip =>
      refine .bind (h.call rfl) fun created => ?_
      cases created with
      | ok u => exact .pure _
      | error e =>
        dsimp only
        split_ifs <;> exact .pure _
  refine .bind .get fun s => .bind (h.call rfl) fun existing => ?_
  cases existing with
  | error e =>
    dsimp only
    split_ifs
    · exact hcreate
    · exact .pure _
  | ok svc =>
    dsimp only
    split
    · exact hrefresh svc
    · split_ifs
      · exact hrefresh svc
      · exact .bind (hendpoint _) fun _ => .bind hready fun _ => .pure _

theorem maintains_awaitLoadBalancer (h : Indifferent P next I)
    (hendpoint : ∀ host, Body.Maintains P next I (setControlPlaneEndpoint host))
    (hready : Body.Maintains P next I (setReady true))
    (hset : ∀ cond, Body.Maintains P next I (setCondition "LoadBalancerReady" cond)) :
    Body.Maintains P next I (awaitLoadBalancer sc) := by
  have hcreate : Body.Maintains P next I (createLoadBalancerIfNotExists sc) := by
    refine .bind .get fun s => .bind (h.call rfl) fun created => ?_
    cases created with
    | ok u => exact .pure _
    | error e =>
      dsimp only
      split_ifs <;> exact .pure _
  have hget : Body.Maintains P next I (getLoadBalancerIP sc) := by
    refine .bind .get fun s => .bind (h.call rfl) fun got => ?_
    cases got with
    | error e => exact .pure _
    | ok lb =>
      dsimp only
      split_ifs <;> exact .pure _
  have hinfrastructure : ∀ cond,
      Body.Maintains P next I (setCondition "InfrastructureReady" cond) := h.report (by decide)
  refine .bind hcreate fun created => ?_
  cases created with
  | error e => exact .bind (hinfrastructure _) fun _ => .pure _
  | ok u =>
    refine .bind hget fun got => ?_
    cases got with
    | error e => exact .bind (hinfrastructure _) fun _ => .pure _
    | ok lbIP =>
      exact .bind (hendpoint _) fun _ => .bind hready fun _ => .bind (hset _) fun _ =>
        .bind (hinfrastructure _) fun _ => .pure _

theorem maintains_reconcileCloudProviderConfig (h : Indifferent P next I)
    (hupdate : ∀ n data, Harmless P next I (.updateConfigMap n data))
    (hset : ∀ cond, Body.Maintains P next I (setCondition "CloudProviderConfigReady" cond)) :
    Body.Maintains P next I (reconcileCloudProviderConfig ext sc) := by
  have hready : Body.Maintains P next I cloudProviderReady := .bind (hset _) fun _ => .pure _
  have hwrite : ∀ cfg, Body.Maintains P next I (updateCloudProviderManifests ext sc cfg) := by
    intro cfg
    unfold updateCloudProviderManifests
    dsimp only
    split_ifs
    · exact .pure _
    refine .bind (h.call rfl) fun got => ?_
    cases got with
    | error e => exact .pure _
    | ok stored =>
      dsimp only
      split
      · exact .pure _
      refine .bind .get fun s => .bind (h.call rfl) fun kubeconfig => ?_
      cases kubeconfig with
      | error e => exact .pure _
      | ok b64 =>
        dsimp only
        split
        · exact .pure _
        split
        · exact .pure _
        refine .bind (hupdate _ _) fun updated => ?_
        cases updated <;> exact .pure _
  unfold reconcileCloudProviderConfig
  refine .bind .get fun s => ?_
  split_ifs
  · exact .pure _
  · exact hready
  · refine .bind (hwrite _) fun written => ?_
    cases written with
    | error e => exact .pure _
    | ok u => exact hready

theorem maintains_propagateToFleetCluster (h : Indifferent P next I)
    (hupdate : ∀ name labels, Harmless P next I (.updateFleetCluster name labels))
    (hset : ∀ cond, Body.Maintains P next I (fleetReady cond)) (mgmtClusterName : String) :
    Body.Maintains P next I (propagateToFleetCluster sc mgmtClusterName) := by
  unfold propagateToFleetCluster
  refine .bind (h.call rfl) fun listed => ?_
  cases listed with
  | error e => exact hset _
  | ok fleetClusters =>
    dsimp only
    split
    · exact hset _
    · split_ifs
      · exact hset _
      · refine .bind (hupdate _ _) fun updated => ?_
        cases updated <;> exact hset _

theorem maintains_reconcileFleetIntegration (h : Indifferent P next I)
    (hupdate : ∀ name labels, Harmless P next I (.updateFleetCluster name labels))
    (hset : ∀ cond, Body.Maintains P next I (fleetReady cond)) :
    Body.Maintains P next I (reconcileFleetIntegration sc) := by
  have hpropagate : ∀ name, Body.Maintains P next I (propagateToFleetCluster sc name) :=
    maintains_propagateToFleetCluster h hupdate hset
  unfold reconcileFleetIntegration
  refine .bind .get fun s => ?_
  split_ifs
  · exact .pure _
  · exact hset _
  refine .bind (h.call rfl) fun listed => ?_
  cases listed with
  | error e => exact .pure _
  | ok provClusters =>
    dsimp only
    split
    · exact hset _
    refine .bind (h.call rfl) fun got => ?_
    cases got with
    | error e => exact hset _
    | ok fleetWorkspaceName =>
      dsimp only
      split_ifs
      · exact hpropagate _
      · refine .bind (h.call rfl) fun patched => ?_
        cases patched with
        | error e => exact hset _
        | ok u => exact hpropagate _

theorem maintains_reconcileLoadBalancer (h : Indifferent P next I)
    (hcloud : Body.Maintains P next I (reconcileCloudProviderConfig ext sc))
    (hawait : Body.Maintains P next I (awaitLoadBalancer sc))
    (hfleet : Body.Maintains P next I (reconcileFleetIntegration sc)) :
    Body.Maintains P next I (reconcileLoadBalancer ext sc) := by
  have hset : ∀ cond, Body.Maintains P next I (setCondition "InfrastructureReady" cond) :=
    h.report (by decide)
  refine .bind hcloud fun config => ?_
  cases config with
  | error e => exact .pure _
  | ok u =>
    refine .bind (hset _) fun _ => .bind .get fun s => ?_
    split_ifs
    · exact hawait
    · exact .bind (hset _) fun _ => .bind hfleet fun _ => .pure _
    · exact .bind (hset _) fun _ => .pure _

theorem maintains_reconcileInfrastructure (h : Indifferent P next I)
    (hpool : Body.Maintains P next I (reconcileVMIPPool sc))
    (hplaceholder : Body.Maintains P next I (reconcilePlaceholder ext sc))
    (hlb : Body.Maintains P next I (reconcileLoadBalancer ext sc)) :
    Body.Maintains P next I (reconcileInfrastructure ext sc) := by
  refine .bind hpool fun pool => ?_
  cases pool with
  | error e => exact .pure _
  | ok u =>
    refine .bind (maintains_reconcileTargetNamespace h) fun _ =>
      .bind (maintains_reconcileFailureDomains h) fun _ =>
      .bind (maintains_getOwnedCPHarversterMachines h) fun owned => ?_
    rcases owned with e | _ | ⟨machine, rest⟩
    · exact .pure _
    · exact hplaceholder
    · exact hlb

theorem maintains_unlessFailed (deleted : Except ApiError Unit) {rest : Pass Outcome}
    (hrest : Body.Maintains P next I rest) :
    Body.Maintains P next I (unlessFailed deleted rest) := by
  unfold unlessFailed
  cases deleted with
  | ok u => exact hrest
  | error e =>
    dsimp only
    split_ifs
    · exact hrest
    · exact .pure _

theorem maintains_deleteVMIPPool (hpool : ∀ name, Harmless P next I (.deletePool name))
    (hrecord : Body.Maintains P next I (deleteCondition "VMIPPoolCreatedByController"))
    (hfinalizers : ∀ f : List String → List String,
      Body.Maintains P next I (Body.modify fun s => { s with finalizers := f s.finalizers })) :
    Body.Maintains P next I deleteVMIPPool := by
  have hfinish : Body.Maintains P next I (do
      Body.modify fun s => { s with finalizers := dropFinalizers s.finalizers }
      pure ((.empty, none) : Outcome)) := .bind (hfinalizers _) fun _ => .pure _
  refine .bind .get fun s => ?_
  dsimp only
  split_ifs
  · cases s.spec.vmNetworkConfig with
    | none => exact .panic
    | some vmNetCfg =>
      exact .bind (hpool _) fun deleted => maintains_unlessFailed deleted
        (.bind hrecord fun _ => hfinish)
  · exact hfinish

theorem maintains_reconcileDelete (h : Indifferent P next I)
    (hlb : ∀ n, Harmless P next I (.deleteLoadBalancer n))
    (hpool : ∀ name, Harmless P next I (.deletePool name))
    (hrecord : Body.Maintains P next I (deleteCondition "CustomIPPoolCreated"))
    (hvm : Body.Maintains P next I deleteVMIPPool) :
    Body.Maintains P next I (reconcileDelete sc) := by
  have hgenerated : Body.Maintains P next I (deleteGenerated sc) :=
    .bind .get fun _ => .bind (h.call rfl) fun service => maintains_unlessFailed service
      (.bind (hpool _) fun pool => maintains_unlessFailed pool hvm)
  refine .bind .get fun s => .bind (hlb _) fun lb => maintains_unlessFailed lb ?_
  split_ifs
  · exact .bind (hpool _) fun pool => maintains_unlessFailed pool
      (.bind hrecord fun _ => hgenerated)
  · exact hgenerated

end Routines

/-! `reconcileCloudProviderConfig` and `reconcileFleetIntegration` look at their own condition, at
one field of the spec and at the labels of the owner. The other parts of a pass leave all of that
alone, and the objects that the two steps write. -/

def Req.aside : Req → Bool
  | .ensurePausedCondition _ _ => false
  | .updateConfigMap _ _ => false
  | .updateFleetCluster _ _ => false
  | .patchConditions _ _ => false
  | .patchObject _ => false
  | .patchStatus _ => false
  | _ => true

structure Agrees (c s : HarvesterCluster) : Prop where
  config : s.spec.updateCloudProviderConfig = c.spec.updateCloudProviderConfig
  cloud : s.status.conditions.lookup "CloudProviderConfigReady" =
    c.status.conditions.lookup "CloudProviderConfigReady"
  fleet : s.status.conditions.lookup "FleetIntegrationReady" =
    c.status.conditions.lookup "FleetIntegrationReady"

theorem Agrees.refl (c : HarvesterCluster) : Agrees c c := ⟨rfl, rfl, rfl⟩

def Beside (type : String) : Prop :=
  "CloudProviderConfigReady" ≠ type ∧ "FleetIntegrationReady" ≠ type

instance (type : String) : Decidable (Beside type) := inferInstanceAs (Decidable (_ ∧ _))

abbrev Aside {α : Type} (c : HarvesterCluster) (b : Pass α) : Prop :=
  Body.Maintains (fun (_ : Unit) r => r.aside = true) (fun u _ _ => u) (fun _ s => Agrees c s) b

section Aside

variable {c : HarvesterCluster} {ext : Externals} {sc : Scope}

theorem aside_call {r : Req} (h : r.aside = true) : Aside c (call r) :=
  Body.Maintains.request fun _ _ hs => ⟨h, fun _ => hs⟩

theorem aside_modifySpec {f : HarvesterClusterSpec → HarvesterClusterSpec}
    (hf : ∀ spec, (f spec).updateCloudProviderConfig = spec.updateCloudProviderConfig) :
    Aside c (modifySpec f) :=
  Body.Maintains.modify fun _ s hs => ⟨(hf s.spec).trans hs.config, hs.cloud, hs.fleet⟩

theorem aside_modifyStatus {f : HarvesterClusterStatus → HarvesterClusterStatus}
    (hf : ∀ st, (f st).conditions = st.conditions) : Aside c (modifyStatus f) := by
  refine Body.Maintains.modify fun _ s hs => ⟨hs.config, ?_, ?_⟩
  · dsimp only
    rw [hf, hs.cloud]
  · dsimp only
    rw [hf, hs.fleet]

theorem aside_finalizers (f : List String → List String) :
    Aside c (Body.modify fun s => { s with finalizers := f s.finalizers }) :=
  Body.Maintains.modify fun _ _ hs => ⟨hs.config, hs.cloud, hs.fleet⟩

theorem aside_setCondition {type : String} (cond : Condition) (h : Beside type) :
    Aside c (setCondition type cond) := by
  refine Body.Maintains.modify fun _ s hs => ⟨hs.config, ?_, ?_⟩
  · rw [← hs.cloud]
    exact (Conditions.lookup_set _ _ _ _).trans (if_neg h.1)
  · rw [← hs.fleet]
    exact (Conditions.lookup_set _ _ _ _).trans (if_neg h.2)

theorem aside_appendCondition {type : String} (cond : Condition) (h : Beside type) :
    Aside c (appendCondition type cond) := by
  refine Body.Maintains.modify fun _ s hs => ⟨hs.config, ?_, ?_⟩
  · rw [← hs.cloud]
    exact (Table.lookup_insert_eq _ _ _ _).trans (if_neg h.1)
  · rw [← hs.fleet]
    exact (Table.lookup_insert_eq _ _ _ _).trans (if_neg h.2)

theorem aside_deleteCondition {type : String} (h : Beside type) :
    Aside c (deleteCondition type) := by
  refine Body.Maintains.modify fun _ s hs => ⟨hs.config, ?_, ?_⟩
  · rw [← hs.cloud]
    exact (Table.lookup_erase_eq _ _ _).trans (if_neg h.1)
  · rw [← hs.fleet]
    exact (Table.lookup_erase_eq _ _ _).trans (if_neg h.2)

theorem aside_indifferent : Indifferent (fun (_ : Unit) r => r.aside = true) (fun u _ _ => u)
    (fun _ s => Agrees c s) where
  call {r} hr := aside_call (by cases r <;> first | rfl | cases hr)
  report {type} htype cond := by
    have hbeside : ∀ type ∈ reports, Beside type := by decide
    exact aside_setCondition cond (hbeside type htype)
  server _ := aside_modifySpec fun _ => rfl
  failureDomains _ := aside_modifyStatus fun _ => rfl

theorem aside_recordPaused (paused : PausedResult) : Aside c (recordPaused paused) :=
  maintains_recordPaused aside_indifferent paused

theorem aside_setReady (ready : Bool) : Aside c (setReady ready) := aside_modifyStatus fun _ => rfl

theorem aside_setControlPlaneEndpoint (host : String) : Aside c (setControlPlaneEndpoint host) :=
  aside_modifySpec fun _ => rfl

theorem aside_infrastructure (cond : Condition) :
    Aside c (setCondition "InfrastructureReady" cond) :=
  aside_indifferent.report (by decide) cond

theorem aside_reconcileHarvesterConfig : Aside c (reconcileHarvesterConfig ext) :=
  maintains_reconcileHarvesterConfig aside_indifferent (aside_setReady _)

theorem aside_reconcileVMIPPool : Aside c (reconcileVMIPPool sc) :=
  have href : Aside c (setVMPoolRef sc.key.vmPoolName) := aside_modifySpec fun _ => rfl
  maintains_reconcileVMIPPool aside_indifferent href
    (maintains_createVMIPPool aside_indifferent (fun _ => aside_call rfl) href
      fun cond => aside_setCondition cond (by decide))

theorem aside_reconcileTargetNamespace : Aside c reconcileTargetNamespace :=
  maintains_reconcileTargetNamespace aside_indifferent

theorem aside_reconcileFailureDomains : Aside c reconcileFailureDomains :=
  maintains_reconcileFailureDomains aside_indifferent

theorem aside_getOwnedCPHarversterMachines : Aside c (getOwnedCPHarversterMachines sc) :=
  maintains_getOwnedCPHarversterMachines aside_indifferent

theorem aside_reconcilePlaceholder : Aside c (reconcilePlaceholder ext sc) :=
  have hcreate : Aside c (createIPPoolIfNotExists sc) :=
    maintains_createIPPoolIfNotExists aside_indifferent (fun _ => aside_call rfl)
      (fun cond => aside_appendCondition cond (by decide)) (aside_setReady _)
  maintains_reconcilePlaceholder aside_indifferent
    (maintains_getIPFromIPPool aside_indifferent hcreate (fun _ => aside_modifySpec fun _ => rfl)
      fun _ _ => aside_call rfl)
    aside_setControlPlaneEndpoint (aside_setReady _)

theorem aside_awaitLoadBalancer : Aside c (awaitLoadBalancer sc) :=
  maintains_awaitLoadBalancer aside_indifferent aside_setControlPlaneEndpoint (aside_setReady _)
    fun cond => aside_setCondition cond (by decide)

theorem aside_reconcileDelete : Aside c (reconcileDelete sc) :=
  maintains_reconcileDelete aside_indifferent (fun _ => aside_call rfl) (fun _ => aside_call rfl)
    (aside_deleteCondition (by decide))
    (maintains_deleteVMIPPool (fun _ => aside_call rfl) (aside_deleteCondition (by decide))
      aside_finalizers)

end Aside

end Caphv.Cluster
