import Caphv.AddressReturn
import Caphv.ClusterWrites
import Caphv.PatchService

namespace Caphv.Cluster

/-- The answers without the faults: what the API servers keep is read and written as asked. -/
def withoutFaults (answers : (r : Req) → Answer r) : (r : Req) → Answer r
  | .getCluster | .patchConditions _ _ | .patchObject _ | .patchStatus _ | .getPool _
  | .createPool _ _ | .updatePool _ _ | .deletePool _ | .listMachines _ | .getService _
  | .createService _ _ | .updateService _ _ | .deleteService _ | .getLoadBalancer _
  | .createLoadBalancer _ _ | .deleteLoadBalancer _ | .getConfigMap _ | .updateConfigMap _ _
  | .listFleetClusters | .updateFleetCluster _ _ => Fault.none
  | r => answers r

def undisturbed (k : ObjectKey) (answers : (r : Req) → Answer r) (w : World) (r : Req) :
    Resp r × World := exec k r (withoutFaults answers r) w

/-- A pass over a cluster with the Paused condition `recorded` gets as far as `ReconcileNormal` or
`ReconcileDelete`: the owner is there, nothing is paused, and Harvester answers. -/
structure Connected (ext : Externals) (answers : (r : Req) → Answer r) (owner : Owner)
    (recorded : Option Condition) : Prop where
  owned : answers .getOwnerCluster = (.ok (some owner) : Except ApiError (Option Owner))
  unpaused : PausedAnswer.LetsThrough (answers (.ensurePausedCondition owner recorded)) recorded
  harvester : ∃ kubeconfig server deployment,
    (∀ n, answers (.getIdentitySecret n) = (.ok kubeconfig : Except ApiError String)) ∧
    getHarvesterServerFromKubeconfig ext kubeconfig = .ok server ∧
    ext.restConfigFromKubeConfig kubeconfig = .ok () ∧ ext.newKubeClient kubeconfig = .ok () ∧
    answers .getHarvesterDeployment =
      (.ok deployment : Except ApiError (List (String × Bool))) ∧
    isHarvesterAvailable deployment = true ∧ ext.newHarvesterClient kubeconfig = .ok ()

section Served

variable {ext : Externals} {k : ObjectKey} {answers : (r : Req) → Answer r} {w w' : World}
  {c s : HarvesterCluster} {owner : Owner} {n : String}

/-- The cluster in memory after the connection: only the server and the condition of the
connection may be new. -/
structure Joined (c s : HarvesterCluster) : Prop where
  finalizers : s.finalizers = c.finalizers
  deleting : s.deleting = c.deleting
  spec : ∃ server, s.spec = { c.spec with server := server }
  conditions : ∀ type, type ≠ "HarvesterConnectionReady" →
    s.status.conditions.lookup type = c.status.conditions.lookup type

theorem serves_reconcileBody
    (h : Connected ext answers owner (c.status.conditions.lookup "Paused"))
    {Q : World → Option Outcome → HarvesterCluster → Prop}
    (hQ : ∀ s, Joined c s → Body.Serves (undisturbed k answers) w
      (if s.deleting then reconcileDelete ⟨k, owner⟩ else reconcileNormal ext ⟨k, owner⟩) s Q) :
    Body.Serves (undisturbed k answers) w (reconcileBody ext k) c Q := by
  obtain ⟨kubeconfig, server, deployment, hsecret, hserver, hrest, hkube, hdeployment, havailable,
    hclient⟩ := h.harvester
  unfold reconcileBody
  refine .request_bind ?_
  rw [show undisturbed k answers w .getOwnerCluster = (answers .getOwnerCluster, w) from rfl,
    h.owned]
  refine .get_bind (.request_bind ?_)
  rw [show undisturbed k answers w (.ensurePausedCondition owner _) = _ from
    ensurePaused_of_letsThrough h.unpaused]
  rw [if_neg (by simp)]
  refine Body.Serves.bind (R := fun w' out s => w' = w ∧ out = some (.ok kubeconfig) ∧
    Joined c s) ?_ ?_ ?_
  · unfold reconcileHarvesterConfig
    refine .modify_bind (.get_bind (.request_bind ?_))
    rw [show undisturbed k answers w (.getIdentitySecret c.spec.identitySecret) =
      (answers (.getIdentitySecret c.spec.identitySecret), w) from rfl, hsecret]
    dsimp only
    rw [hserver]
    refine .modify_bind ?_
    rw [hrest]
    dsimp only
    rw [hkube]
    refine .request_bind ?_
    rw [show undisturbed k answers w .getHarvesterDeployment =
      (answers .getHarvesterDeployment, w) from rfl, hdeployment]
    dsimp only
    rw [havailable]
    refine .modify_bind ⟨rfl, rfl, rfl, rfl, ⟨server, rfl⟩, fun type htype => ?_⟩
    show ((c.status.conditions.set _ _).set _ _).lookup type = _
    rw [Conditions.lookup_set, if_neg htype, Conditions.lookup_set, if_neg htype]
  · rintro w₁ out s ⟨rfl, hout, hs⟩
    obtain rfl := Option.some.inj hout
    dsimp only
    rw [hclient]
    exact .get_bind (hQ s hs)
  · rintro w₁ s ⟨-, hout, -⟩
    cases hout

theorem serves_unlessFailed {x : Except ApiError Unit} {rest : Pass Outcome}
    {Q : World → Option Outcome → HarvesterCluster → Prop}
    (hx : x = .ok () ∨ x = .error .notFound)
    (hrest : Body.Serves (undisturbed k answers) w rest s Q) :
    Body.Serves (undisturbed k answers) w (unlessFailed x rest) s Q := by
  rcases hx with rfl | rfl <;> exact hrest

def exposureName (k : ObjectKey) (c : HarvesterCluster) : NamespacedName :=
  ⟨c.spec.targetNamespace, k.lbName⟩

def freed (k : ObjectKey) (c : HarvesterCluster) (w : World) (p : StoredPool) : StoredPool :=
  if (w.loadBalancers.lookup (exposureName k c)).isSome then p.releaseByID (lbID k c) else p

/-- The load balancer is gone, and of the rest only the Service, if `service`, and the pools of
`names`. -/
structure Removed (k : ObjectKey) (c : HarvesterCluster) (service : Bool) (names : List String)
    (w w' : World) : Prop where
  clusters : w'.clusters = w.clusters
  loadBalancers : ∀ n, w'.loadBalancers.lookup n =
    if n = exposureName k c then none else w.loadBalancers.lookup n
  services : ∀ n, w'.services.lookup n =
    if service = true ∧ n = exposureName k c then none else w.services.lookup n
  pools : ∀ n, w'.pools.lookup n =
    if n ∈ names then none else (w.pools.lookup n).map (freed k c w)

theorem note_same (w : World) (r : Req) (x : Resp r) :
    (w.note k r x).clusters = w.clusters ∧ (w.note k r x).pools = w.pools ∧
      (w.note k r x).services = w.services ∧
      (w.note k r x).loadBalancers = w.loadBalancers := by
  unfold World.note
  split
  · exact ⟨rfl, rfl, rfl, rfl⟩
  · split_ifs <;> exact ⟨rfl, rfl, rfl, rfl⟩
  · exact ⟨rfl, rfl, rfl, rfl⟩

theorem serve_deleteLoadBalancer (k : ObjectKey) (answers : (r : Req) → Answer r) (w : World)
    (c : HarvesterCluster) :
    let out := undisturbed k answers w (.deleteLoadBalancer (exposureName k c))
    (out.1 = .ok () ∨ out.1 = .error .notFound) ∧ Removed k c false [] w out.2 := by
  intro out
  have hout : out = Fault.none.write w (w.deleteLoadBalancer (exposureName k c)) := rfl
  rw [hout]
  unfold World.deleteLoadBalancer
  cases hlb : w.loadBalancers.lookup (exposureName k c) with
  | none =>
    refine ⟨Or.inr rfl, rfl, fun n => ?_, fun n => rfl, fun n => ?_⟩
    · show w.loadBalancers.lookup n = _
      split_ifs with hn
      · rw [hn, hlb]
      · rfl
    · show w.pools.lookup n = (w.pools.lookup n).map (freed k c w)
      have hfreed : freed k c w = id := by
        funext p
        unfold freed
        rw [hlb]
        rfl
      rw [hfreed, Option.map_id]
      rfl
  | some lb =>
    refine ⟨Or.inl rfl, rfl, fun n => ?_, fun n => rfl, fun n => ?_⟩
    · exact Table.lookup_erase_eq _ _ _
    · have hfreed : freed k c w = StoredPool.releaseByID (lbID k c) := by
        funext p
        unfold freed
        rw [hlb]
        rfl
      rw [hfreed]
      exact Table.lookup_mapValues _ _ _

theorem Removed.deletePool {service : Bool} {names : List String}
    (h : Removed k c service names w w') (answers : (r : Req) → Answer r) (hn : n ≠ "") :
    let out := undisturbed k answers w' (.deletePool n)
    (out.1 = .ok () ∨ out.1 = .error .notFound) ∧ Removed k c service (n :: names) w out.2 := by
  intro out
  have hone : out.1 = (Fault.none.write w' (w'.deletePool n)).1 := rfl
  have htwo : out.2 = (Fault.none.write w' (w'.deletePool n)).2.note k (.deletePool n) out.1 := rfl
  obtain ⟨hclusters, hpools, hservices, hlbs⟩ :=
    note_same (k := k) (Fault.none.write w' (w'.deletePool n)).2 (.deletePool n) out.1
  rw [← htwo] at hclusters hpools hservices hlbs
  rw [hone]
  have hdelete : ((Fault.none.write w' (w'.deletePool n)).1 = .ok () ∨
      (Fault.none.write w' (w'.deletePool n)).1 = .error .notFound) ∧
      (Fault.none.write w' (w'.deletePool n)).2.clusters = w'.clusters ∧
      (Fault.none.write w' (w'.deletePool n)).2.services = w'.services ∧
      (Fault.none.write w' (w'.deletePool n)).2.loadBalancers = w'.loadBalancers ∧
      ∀ m, (Fault.none.write w' (w'.deletePool n)).2.pools.lookup m =
        if m = n then none else w'.pools.lookup m := by
    unfold World.deletePool
    rw [if_neg hn]
    cases hp : w'.pools.lookup n with
    | none =>
      refine ⟨Or.inr rfl, rfl, rfl, rfl, fun m => ?_⟩
      show w'.pools.lookup m = _
      split_ifs with hm
      · rw [hm, hp]
      · rfl
    | some p => exact ⟨Or.inl rfl, rfl, rfl, rfl, fun m => Table.lookup_erase_eq _ _ _⟩
  obtain ⟨hx, hc', hs', hl', hp'⟩ := hdelete
  refine ⟨hx, ?_, fun m => ?_, fun m => ?_, fun m => ?_⟩
  · rw [hclusters, hc', h.clusters]
  · rw [hlbs, hl', h.loadBalancers]
  · rw [hservices, hs', h.services]
  · rw [hpools, hp', h.pools]
    by_cases hm : m = n
    · simp [hm]
    · simp [hm]

theorem Removed.deleteService {names : List String} (h : Removed k c false names w w')
    (answers : (r : Req) → Answer r) :
    let out := undisturbed k answers w' (.deleteService (exposureName k c))
    (out.1 = .ok () ∨ out.1 = .error .notFound) ∧ Removed k c true names w out.2 := by
  intro out
  have hout : out = Fault.none.write w' (w'.deleteService (exposureName k c)) := rfl
  have hold : ∀ m, w'.services.lookup m = w.services.lookup m := fun m => by
    rw [h.services, if_neg (by simp)]
  rw [hout]
  unfold World.deleteService
  cases hsvc : w'.services.lookup (exposureName k c) with
  | none =>
    refine ⟨Or.inr rfl, h.clusters, h.loadBalancers, fun m => ?_, h.pools⟩
    show w'.services.lookup m = _
    split_ifs with hm
    · rw [hm.2, hsvc]
    · exact hold m
  | some svc =>
    refine ⟨Or.inl rfl, h.clusters, h.loadBalancers, fun m => ?_, h.pools⟩
    refine (Table.lookup_erase_eq _ _ _).trans ?_
    rw [hold]
    simp

def vmPools (c : HarvesterCluster) : List String :=
  if c.status.conditions.isTrue "VMIPPoolCreatedByController" then
    (c.spec.vmNetworkConfig.map VMNetworkConfig.ipPoolRef).toList
  else []

def customPools (c : HarvesterCluster) : List String :=
  if c.status.conditions.isTrue "CustomIPPoolCreated" then [c.spec.loadBalancerConfig.ipPoolRef]
  else []

def generatedPools (k : ObjectKey) (c : HarvesterCluster) : List String :=
  vmPools c ++ k.lbPoolName :: customPools c

/-- The pools that the conditions record can be deleted by name. -/
structure Recorded (c : HarvesterCluster) : Prop where
  custom : c.status.conditions.isTrue "CustomIPPoolCreated" = true →
    c.spec.loadBalancerConfig.ipPoolRef ≠ ""
  vm : c.status.conditions.isTrue "VMIPPoolCreatedByController" = true →
    ∃ cfg, c.spec.vmNetworkConfig = some cfg ∧ cfg.ipPoolRef ≠ ""

structure Pending (c s : HarvesterCluster) : Prop where
  finalizers : s.finalizers = c.finalizers
  deleting : s.deleting = c.deleting
  spec : ∃ server, s.spec = { c.spec with server := server }
  vm : s.status.conditions.isTrue "VMIPPoolCreatedByController" =
    c.status.conditions.isTrue "VMIPPoolCreatedByController"

structure Finished (c s : HarvesterCluster) : Prop where
  finalizers : s.finalizers = dropFinalizers c.finalizers
  deleting : s.deleting = c.deleting
  spec : ∃ server, s.spec = { c.spec with server := server }

theorem Pending.finish (h : Pending c s) (st : HarvesterClusterStatus) :
    Finished c { s with finalizers := dropFinalizers s.finalizers, status := st } :=
  ⟨congrArg dropFinalizers h.finalizers, h.deleting, h.spec⟩

theorem lbKey_of_spec (h : ∃ server, s.spec = { c.spec with server := server }) :
    lbKey ⟨k, owner⟩ s = exposureName k c := by
  obtain ⟨server, hs⟩ := h
  unfold lbKey exposureName
  rw [hs]

theorem serves_deleteVMIPPool (hrec : Recorded c) (h : Pending c s) {names : List String}
    (hw : Removed k c true names w w') :
    Body.Serves (undisturbed k answers) w' deleteVMIPPool s fun w'' out s' =>
      out = some (.empty, none) ∧ Finished c s' ∧ Removed k c true (vmPools c ++ names) w w'' := by
  unfold deleteVMIPPool vmPools
  refine .get_bind ?_
  dsimp only
  rw [h.vm]
  by_cases htrue : c.status.conditions.isTrue "VMIPPoolCreatedByController" = true
  · rw [if_pos htrue, if_pos htrue]
    obtain ⟨cfg, hcfg, hne⟩ := hrec.vm htrue
    have hcfg' : s.spec.vmNetworkConfig = some cfg := by
      obtain ⟨server, hs⟩ := h.spec
      rw [hs, hcfg]
    rw [hcfg', hcfg]
    obtain ⟨hx, hremoved⟩ := hw.deletePool answers hne
    refine .request_bind (serves_unlessFailed hx (.modify_bind (.modify_bind ?_)))
    exact ⟨rfl, h.finish _, hremoved⟩
  · rw [if_neg htrue, if_neg htrue]
    exact .modify_bind ⟨rfl, h.finish _, hw⟩

theorem serves_deleteGenerated (hrec : Recorded c) (h : Pending c s) {names : List String}
    (hw : Removed k c false names w w') :
    Body.Serves (undisturbed k answers) w' (deleteGenerated ⟨k, owner⟩) s fun w'' out s' =>
      out = some (.empty, none) ∧ Finished c s' ∧
        Removed k c true (vmPools c ++ k.lbPoolName :: names) w w'' := by
  unfold deleteGenerated
  refine .get_bind ?_
  rw [lbKey_of_spec h.spec]
  obtain ⟨hx, hservice⟩ := hw.deleteService answers
  refine .request_bind (serves_unlessFailed hx ?_)
  obtain ⟨hx', hpool⟩ := hservice.deletePool answers (lbPoolName_ne_empty k)
  exact .request_bind (serves_unlessFailed hx' (serves_deleteVMIPPool hrec h hpool))

theorem serves_reconcileDelete (hrec : Recorded c) (h : Joined c s) :
    Body.Serves (undisturbed k answers) w (reconcileDelete ⟨k, owner⟩) s fun w' out s' =>
      out = some (.empty, none) ∧ Finished c s' ∧
        Removed k c true (generatedPools k c) w w' := by
  have hvm := Conditions.isTrue_lookup (h.conditions "VMIPPoolCreatedByController" (by decide))
  have hcustom := Conditions.isTrue_lookup (h.conditions "CustomIPPoolCreated" (by decide))
  unfold reconcileDelete generatedPools customPools
  refine .get_bind ?_
  rw [lbKey_of_spec h.spec, hcustom]
  obtain ⟨hx, hlb⟩ := serve_deleteLoadBalancer k answers w c
  refine .request_bind (serves_unlessFailed hx ?_)
  by_cases htrue : c.status.conditions.isTrue "CustomIPPoolCreated" = true
  · rw [if_pos htrue, if_pos htrue]
    have href : s.spec.loadBalancerConfig.ipPoolRef = c.spec.loadBalancerConfig.ipPoolRef := by
      obtain ⟨server, hs⟩ := h.spec
      rw [hs]
    rw [href]
    obtain ⟨hx', hpool⟩ := hlb.deletePool answers (hrec.custom htrue)
    have hpending : Pending c { s with status := { s.status with
        conditions := s.status.conditions.delete "CustomIPPoolCreated" } } := by
      refine ⟨h.finalizers, h.deleting, h.spec, (Conditions.isTrue_lookup ?_).trans hvm⟩
      rw [Conditions.delete, Table.lookup_erase_eq, if_neg (by decide)]
    refine .request_bind (serves_unlessFailed hx' (.modify_bind ?_))
    exact serves_deleteGenerated hrec hpending hpool
  · rw [if_neg htrue, if_neg htrue]
    exact serves_deleteGenerated hrec ⟨h.finalizers, h.deleting, h.spec, hvm⟩ hlb

def clusterTable : TableIn World ObjectKey HarvesterCluster where
  table := World.clusters
  put w t := { w with clusters := t }
  put_table _ := rfl
  table_put _ _ := rfl
  put_put _ _ _ := rfl

theorem sends_sendConditions (answers : (r : Req) → Answer r) (s : HarvesterCluster)
    (hc : w.clusters.lookup k = some c) :
    ∃ cs, clusterTable.Sends (undisturbed k answers) k w (sendConditions c s)
      (some { c with status := { c.status with conditions := cs } }) := by
  refine (TableIn.sends_conditions (L := clusterTable)
    (fun cs => { c with status := { c.status with conditions := cs } }) hc fun cs hcs => ?_).imp
      fun _ h => h.2.2
  show Fault.none.write w (w.patchConditions k _ _) = _
  simp only [World.patchConditions, hc, hcs]
  rfl

theorem vmPoolRef_between_self (h : c.spec.vmNetworkConfig = s.spec.vmNetworkConfig) :
    (ObjectPatch.between c s).vmPoolRef = none := by
  unfold ObjectPatch.between
  rw [h]
  dsimp only
  split
  · rename_i b a hb ha
    rw [Option.some.inj (hb.symm.trans ha)]
    exact if_pos rfl
  · rfl

theorem ObjectPatch.apply_between_self (c₁ : HarvesterCluster) (hf : c.finalizers = s.finalizers)
    (hspec : c.spec = s.spec) : (ObjectPatch.between c s).apply c₁ = c₁ := by
  have href := vmPoolRef_between_self (congrArg HarvesterClusterSpec.vmNetworkConfig hspec)
  simp only [ObjectPatch.apply, href]
  simp only [ObjectPatch.between, hf, hspec, changedTo, if_true, Option.getD_none]

theorem sends_sendObject (answers : (r : Req) → Answer r) (h : Finished c s)
    {st : HarvesterClusterStatus} (hc : w.clusters.lookup k = some { c with status := st })
    (hadm : Admitted c.spec) (hd : c.deleting = true) (hheld : c.finalizers ≠ []) :
    clusterTable.Sends (undisturbed k answers) k w (sendObject c s)
      (if s.finalizers = [] then none
        else some ((ObjectPatch.between c s).apply { c with status := st })) := by
  have hfin : ((ObjectPatch.between c s).apply { c with status := st }).finalizers =
      s.finalizers := getD_changedTo _ _
  refine TableIn.sends_unless (fun hsame => ?_) rfl fun _ => ?_
  · rw [if_neg (hsame.1 ▸ hheld), ObjectPatch.apply_between_self _ hsame.1 hsame.2]
    exact hc
  have href : (ObjectPatch.between c s).vmPoolRef = none := by
    obtain ⟨server, hserver⟩ := h.spec
    exact vmPoolRef_between_self (by rw [hserver])
  have hok : Admitted ((ObjectPatch.between c s).apply { c with status := st }).spec := by
    refine Admitted.apply hadm ?_
    rw [href]
    nofun
  have hnew : ¬ (c.deleting = true ∧ ∃ f ∈
      ((ObjectPatch.between c s).apply { c with status := st }).finalizers, f ∉ c.finalizers) := by
    rintro ⟨-, f, hmem, hnot⟩
    rw [hfin, h.finalizers] at hmem
    exact hnot (mem_removeFinalizer.mp (mem_removeFinalizer.mp hmem).1).1
  have href' : ¬ ((ObjectPatch.between c s).vmPoolRef.isSome = true ∧
      c.spec.vmNetworkConfig = none) := by simp [href]
  have hpatch : Prog.serve (undisturbed k answers) w (send (.patchObject (.between c s))) =
      Fault.none.write w (w.patchObject k (.between c s)) := rfl
  split_ifs with hlast
  · refine ⟨_, hpatch.trans ?_, .erase clusterTable w⟩
    simp only [World.patchObject, hc]
    rw [if_neg href', if_neg (not_not.mpr hok), if_neg hnew, if_pos ⟨hd, hfin.trans hlast⟩]
    rfl
  · refine ⟨_, hpatch.trans ?_, .insert clusterTable w _⟩
    simp only [World.patchObject, hc]
    rw [if_neg href', if_neg (not_not.mpr hok), if_neg hnew,
      if_neg fun hgone => hlast (hfin.symm.trans hgone.2)]
    rfl

theorem sends_sendStatus (answers : (r : Req) → Answer r) (c s : HarvesterCluster)
    {c₂ : HarvesterCluster} (hc : w.clusters.lookup k = some c₂) :
    clusterTable.Sends (undisturbed k answers) k w (sendStatus c s)
      (some { c₂ with status := (StatusPatch.between c.status s.status).apply c₂.status }) := by
  refine TableIn.sends_unless (fun hsame => ?_) rfl fun _ => ?_
  · simp only [StatusPatch.apply, StatusPatch.between, hsame, changedTo, if_true, Option.getD_none]
    exact hc
  · refine ⟨_, ?_, .insert clusterTable w _⟩
    show Fault.none.write w (w.patchStatus k _) = _
    simp only [World.patchStatus, hc]
    rfl

theorem sends_sendStatus_gone (hc : w.clusters.lookup k = none) (hd : s.deleting = true)
    (hf : s.finalizers = []) :
    clusterTable.Sends (undisturbed k answers) k w (sendStatus c s) none := by
  refine TableIn.sends_missing hc ?_ (if_pos ⟨rfl, hd, hf⟩)
  show Fault.none.write w (w.patchStatus k _) = _
  simp only [World.patchStatus, hc]
  rfl

/-- The deferred patch takes the finalizers away, and the cluster goes with its last one. -/
theorem sends_patchHelper (answers : (r : Req) → Answer r) (h : Finished c s)
    (hc : w.clusters.lookup k = some c) (hadm : Admitted c.spec) (hd : c.deleting = true)
    (hheld : c.finalizers ≠ []) :
    ∃ c' : HarvesterCluster, c'.finalizers = s.finalizers ∧
      clusterTable.Sends (undisturbed k answers) k w (patchHelper c s)
        (if s.finalizers = [] then none else some c') := by
  obtain ⟨cs, hsends⟩ := sends_sendConditions answers s hc
  let st : HarvesterClusterStatus := { c.status with conditions := cs }
  refine ⟨{ (ObjectPatch.between c s).apply { c with status := st } with
    status := (StatusPatch.between c.status s.status).apply st }, getD_changedTo _ _, ?_⟩
  refine hsends.parts (fun _ hc₁ => sends_sendObject answers h hc₁ hadm hd hheld) fun _ hc₂ => ?_
  split_ifs at hc₂ ⊢ with hgone
  · exact sends_sendStatus_gone hc₂ (h.deleting.trans hd) hgone
  · exact sends_sendStatus answers c s hc₂

/-- What the deletion of cluster `c` makes of the world. -/
structure Retired (k : ObjectKey) (c : HarvesterCluster) (w w' : World) : Prop where
  cluster : (w'.clusters.lookup k).map HarvesterCluster.finalizers =
    if dropFinalizers c.finalizers = [] then none else some (dropFinalizers c.finalizers)
  others : ∀ j ≠ k, w'.clusters.lookup j = w.clusters.lookup j
  loadBalancers : ∀ n, w'.loadBalancers.lookup n =
    if n = exposureName k c then none else w.loadBalancers.lookup n
  services : ∀ n, w'.services.lookup n =
    if n = exposureName k c then none else w.services.lookup n
  pools : ∀ n, w'.pools.lookup n =
    if n ∈ generatedPools k c then none else (w.pools.lookup n).map (freed k c w)

theorem Removed.retired {c' : HarvesterCluster} {w'' : World}
    (h : Removed k c true (generatedPools k c) w w')
    (hc' : c'.finalizers = dropFinalizers c.finalizers)
    (hw : clusterTable.Written k w'
      (if dropFinalizers c.finalizers = [] then none else some c') w'') :
    Retired k c w w'' := by
  refine ⟨?_, fun j hj => ?_, fun n => ?_, fun n => ?_, fun n => ?_⟩
  · have hentry : w''.clusters.lookup k = _ := hw.lookup
    rw [hentry, apply_ite (Option.map _), Option.map_none, Option.map_some, hc']
  · have hentry : w''.clusters.lookup j = _ := hw.entries j
    rw [hentry, if_neg hj]
    exact congrArg (AList.lookup j) h.clusters
  · rw [hw.rest]
    exact h.loadBalancers n
  · rw [hw.rest]
    exact (h.services n).trans (by simp only [true_and])
  · rw [hw.rest]
    exact h.pools n

/-- A pass over a stored cluster: the body, and then the deferred patch. -/
theorem serve_reconcile (hc : w.clusters.lookup k = some c)
    {Q : World → Option Outcome → HarvesterCluster → Prop}
    (hbody : Body.Serves (undisturbed k answers) w (reconcileBody ext k) c Q) :
    ∃ w₁ out s, Q w₁ out s ∧ Prog.serve (undisturbed k answers) w (reconcile ext k) =
      (out.getD (.empty, some "panic"),
        (Prog.serve (undisturbed k answers) w₁ (patchHelper c (mirrorReady s))).2) := by
  refine ⟨_, _, _, hbody, (Prog.serve_request_bind _ _ _).trans ?_⟩
  rw [show undisturbed k answers w .getCluster = (found (w.clusters.lookup k), w) from rfl, hc]
  refine (Prog.serve_bind _ _ _).trans ?_
  refine (Prog.serve_bind _ _ _).trans ?_
  rcases (Prog.serve (undisturbed k answers) w (reconcileBody ext k c)).1 with ⟨_ | out, s⟩ <;> rfl

end Served

/-- From every state of a cluster that is being deleted, whatever interrupted passes have left:
one pass that nothing disturbs ends without an error and takes the finalizers away, and of what
Harvester has only the load balancer with its address, its Service and the generated pools are
gone. -/
theorem cluster_deletion_completes (ext : Externals) (k : ObjectKey)
    (answers : (r : Req) → Answer r) (owner : Owner) (w : World) (c : HarvesterCluster)
    (h : Connected ext answers owner (c.status.conditions.lookup "Paused"))
    (hc : w.clusters.lookup k = some c) (hd : c.deleting = true) (hf : c.finalizers ≠ [])
    (hadm : Admitted c.spec) (hrec : Recorded c) :
    let out := Prog.serve (undisturbed k answers) w (reconcile ext k)
    out.1 = (.empty, none) ∧ Retired k c w out.2 := by
  have hbody : Body.Serves (undisturbed k answers) w (reconcileBody ext k) c fun w' out s' =>
      out = some (.empty, none) ∧ Finished c s' ∧
        Removed k c true (generatedPools k c) w w' :=
    serves_reconcileBody h fun s hs => by
      rw [if_pos (hs.deleting.trans hd)]
      exact serves_reconcileDelete hrec hs
  obtain ⟨w₁, out, s, ⟨rfl, hfinished, hremoved⟩, hserve⟩ := serve_reconcile hc hbody
  have hc₁ : w₁.clusters.lookup k = some c := by rw [hremoved.clusters, hc]
  have hmirror : Finished c (mirrorReady s) :=
    ⟨hfinished.finalizers, hfinished.deleting, hfinished.spec⟩
  obtain ⟨c', hc', w₂, hpatch, hw⟩ := sends_patchHelper answers hmirror hc₁ hadm hd hf
  rw [hmirror.finalizers] at hc' hw
  rw [hserve, hpatch]
  exact ⟨rfl, hremoved.retired hc' hw⟩

namespace Sample

def provisionedAndDeleted : World :=
  ((system ext).run empty (created keyX [clusterFinalizer] vmPoolSpec ++
    .env (.putMachine keyX ⟨some "x", true⟩) :: pass keyX ++ [.env (.deleteCluster keyX)])).world

end Sample

open Sample in
theorem cluster_deletion_completes_sample :
    let w := provisionedAndDeleted
    (w.pools.lookup keyX.vmPoolName).isSome = true ∧
      (w.loadBalancers.lookup ⟨"target", "ns-x-lb"⟩).isSome = true ∧
      ∃ c, w.clusters.lookup keyX = some c ∧ keyX.vmPoolName ∈ generatedPools keyX c ∧
        let out := Prog.serve (undisturbed keyX (answers noFault)) w (reconcile ext keyX)
        out.1 = (.empty, none) ∧ Retired keyX c w out.2 := by
  have hstored : ∃ c ∈ provisionedAndDeleted.clusters.lookup keyX, c.deleting = true ∧
      c.finalizers ≠ [] ∧ c.status.conditions.lookup "Paused" =
        some (PausedAnswer.unpaused .none).condition ∧ Admitted c.spec ∧
      keyX.vmPoolName ∈ generatedPools keyX c ∧
      c.status.conditions.isTrue "CustomIPPoolCreated" = false ∧
      ∃ cfg ∈ c.spec.vmNetworkConfig, cfg.ipPoolRef ≠ "" := by decide +kernel
  obtain ⟨c, hc, hd, hf, hpaused, hadm, hpool, hcustom, cfg, hcfg, hne⟩ := hstored
  have hconnected : Connected ext (answers noFault) ⟨keyX, ∅⟩
      (c.status.conditions.lookup "Paused") :=
    ⟨rfl, ⟨hpaused, nofun⟩, "kubeconfig", "https://harvester", [("Available", true)],
      fun _ => rfl, by decide +kernel, rfl, rfl, rfl, by decide +kernel, rfl⟩
  refine ⟨by decide +kernel, by decide +kernel, c, hc, hpool, ?_⟩
  exact cluster_deletion_completes ext keyX _ _ _ c hconnected hc hd hf hadm
    ⟨fun h => absurd (hcustom.symm.trans h) (by decide), fun _ => ⟨cfg, hcfg, hne⟩⟩

end Caphv.Cluster
