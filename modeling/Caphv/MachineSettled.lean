import Caphv.NodeInit
import Caphv.ReadyFlags

namespace Caphv.Machine

open NodeInit (Node hasUninitializedTaint initialized)

/-- The API servers, and the Node of the machine's name in the workload cluster. -/
structure Site where
  world : World
  node : Option Node

def Succeeds : (r : Req) → Answer r → Bool
  | .getOwnerMachine, .ok _ => true
  | .getOwnerCluster _, .ok _ => true
  | .ensurePausedCondition _ _, ⟨_, .none⟩ => true
  | .getIdentitySecret _, .ok _ => true
  | .getBootstrapSecret _, .ok _ => true
  | .getWorkloadClusterConfig _, .ok _ => true
  | .getNodeProviderID _, .ok _ => true
  | .initializeWorkloadNode _ _, _ => true
  | .removeEtcdMember _, _ => true
  | .randomID, _ => true
  | .getVMI _, .ok _ => true
  | .listImages _, .ok _ => true
  | .getKeyPair _, .ok _ => true
  | .getMachine, .none => true
  | .getHarvesterCluster _, .none => true
  | .getPool _, .none => true
  | .getVM _, .none => true
  | .getSecret _, .none => true
  | .listPVCs _, .none => true
  | .patchClusterStatus _ _, .none => true
  | .patchConditions _ _, .none => true
  | .patchObject _, .none => true
  | .patchStatus _, .none => true
  | .updatePool _ _, .none => true
  | .createVM _ _ _, .none => true
  | .deleteVM _, .none => true
  | .createSecret _ _, .none => true
  | .updateSecret _ _, .none => true
  | .deleteSecret _, .none => true
  | .deletePVC _, .none => true
  | _, _ => false

def Site.serve (k : ObjectKey) (answers : (r : Req) → Answer r) (t : Site) :
    (r : Req) → Resp r × Site
  | .getWorkloadClusterConfig _ => ((.ok () : Except String Unit), t)
  | .getNodeProviderID _ =>
    match t.node with
    | some node => ((.ok node.providerID : Except String String), t)
    | none => ((.error "not found" : Except String String), t)
  | .initializeWorkloadNode _ providerID =>
    let out := Prog.serve NodeInit.answering t.node (NodeInit.initializeWorkloadNode providerID)
    (out.1, { t with node := out.2 })
  | r =>
    let out := exec k r (answers r) t.world
    (out.1, { t with world := out.2 })

/-- The object is as it was read, up to the order of its conditions. -/
structure Unchanged (m s : HarvesterMachine) : Prop where
  finalizers : s.finalizers = m.finalizers
  spec : s.spec = m.spec
  status : { s.status with conditions := m.status.conditions } = m.status
  conditions : ∀ type, s.status.conditions.lookup type = m.status.conditions.lookup type

/-- `ReconcileNormal` with every call succeeding leaves the machine and the Node as they are. -/
def Settled (ext : Externals) (sc : Scope) (answers : (r : Req) → Answer r) (m : HarvesterMachine)
    (t : Site) : Prop :=
  Body.Serves (Site.serve sc.key answers) t (reconcileNormal ext sc) m fun t' _ m' =>
    Unchanged m m' ∧ t'.node = t.node

/-- What a machine needs from its surroundings: the infrastructure and the bootstrap data are
there, the VM is meant to run and has an address. -/
structure Supplied (sc : Scope) (answers : (r : Req) → Answer r) (m : HarvesterMachine)
    (t : Site) (vm : VM) (interfaces : List String) : Prop where
  succeeds : ∀ r, Succeeds r (answers r) = true
  alive : m.deleting = false
  client : sc.harvesterClient = true
  infrastructure : sc.cluster.infrastructureProvisioned = some true
  bootstrap : sc.machine.dataSecretName ≠ none
  found : t.world.vms.lookup (vmName sc.key sc.harvesterCluster) = some vm
  runs : isVMRunning vm.state = true
  instance_ : answers (.getVMI (vmName sc.key sc.harvesterCluster)) =
    (.ok interfaces : Except ApiError (List String))
  address : addressesOf interfaces ≠ []

def AddressResolved (m : HarvesterMachine) (c : HarvesterCluster) : Prop :=
  m.status.allocatedIPAddress ≠ "" ∨ m.spec.networkConfig ≠ none ∨
    effectiveVMNetworkConfig m c = none

/-- The machine is done: it has its id and both flags, and its Node is initialized. -/
structure Complete (m : HarvesterMachine) (node : Node) : Prop where
  providerID : m.spec.providerID ≠ ""
  ready : m.status.ready = true
  provisioned : m.status.provisioned = true
  nodeProviderID : node.providerID ≠ ""
  untainted : hasUninitializedTaint node = false

section Settled

variable {ext : Externals} {sc : Scope} {answers : (r : Req) → Answer r}
  {m s : HarvesterMachine} {t : Site} {vm : VM} {interfaces : List String} {node : Node}

theorem harvester_of_client (h : sc.harvesterClient = true) (r : Req) :
    sc.harvester r = Body.request r := if_pos h

theorem serve_getVM (h : Supplied sc answers m t vm interfaces) :
    Site.serve sc.key answers t (.getVM (vmName sc.key sc.harvesterCluster)) =
      ((.ok vm : Except ApiError VM), t) := by
  have hnone : answers (.getVM (vmName sc.key sc.harvesterCluster)) = Fault.none := by
    have hok := h.succeeds (.getVM (vmName sc.key sc.harvesterCluster))
    cases hf : answers (.getVM (vmName sc.key sc.harvesterCluster)) with
    | none => rfl
    | reject msg =>
      rw [hf] at hok
      cases hok
    | lose msg =>
      rw [hf] at hok
      cases hok
  simp only [Site.serve, exec, hnone, h.found]
  rfl

theorem serve_getVMI (h : Supplied sc answers m t vm interfaces) :
    Site.serve sc.key answers t (.getVMI (vmName sc.key sc.harvesterCluster)) =
      ((.ok interfaces : Except ApiError (List String)), t) := by
  simp only [Site.serve, exec, h.instance_]
  rfl

/-- With the address at hand, the network configuration takes no call. -/
theorem serves_resolveNetworkConfig {h : Site → (r : Req) → Resp r × Site}
    (hres : AddressResolved s sc.harvesterCluster) :
    Body.Serves h t (resolveNetworkConfig ext sc) s fun t' out s' =>
      t' = t ∧ (∃ cfg, out = some (.ok cfg)) ∧ Kept s s' := by
  unfold resolveNetworkConfig
  refine .get_bind ?_
  split
  · rename_i cfg heff hnet
    have haddr : s.status.allocatedIPAddress ≠ "" := by
      rcases hres with h | h | h
      · exact h
      · exact absurd hnet h
      · rw [heff] at h
        cases h
    have hallocate : Body.Serves h t (allocateVMIP ext sc) s fun t' out s' =>
        t' = t ∧ out = some (.ok ()) ∧ s' = s := by
      refine .get_bind ?_
      rw [if_pos haddr]
      exact ⟨rfl, rfl, rfl⟩
    refine hallocate.bind ?_ fun _ _ h => absurd h.2.1 nofun
    rintro t' out s' ⟨rfl, hout, rfl⟩
    cases hout
    exact ⟨rfl, ⟨_, rfl⟩, Kept.setCondition _ (by decide) s'⟩
  · exact ⟨rfl, ⟨_, rfl⟩, .refl s⟩

/-- Up to the branch for an existing VM nothing is asked of the workload cluster. -/
theorem serves_upToVM (h : Supplied sc answers m t vm interfaces)
    (hf : machineFinalizer ∈ m.finalizers) (hres : AddressResolved m sc.harvesterCluster)
    {Q : Site → Option Outcome → HarvesterMachine → Prop}
    (hQ : ∀ dataSecretName netCfg s, Kept m s →
      Body.Serves (Site.serve sc.key answers) t
        (orElse (reconcileExistingVM sc (vmName sc.key sc.harvesterCluster) vm)
          (orElse (reconcileCreation ext sc dataSecretName netCfg true) (finishNormal sc))) s Q) :
    Body.Serves (Site.serve sc.key answers) t (reconcileNormal ext sc) m Q := by
  have hsame := Kept.setCondition ⟨.true_, "InfrastructureReady", "Cluster infrastructure is ready"⟩
    (by decide : "MachineCreated" ≠ "InfrastructureReady") m
  unfold reconcileNormal
  refine .get_bind ?_
  rw [if_neg (by simp [hf]), if_neg (by simp [hf]), if_neg (by simp [h.infrastructure])]
  refine .modify_bind ?_
  obtain ⟨dataSecretName, hdata⟩ := Option.ne_none_iff_exists'.mp h.bootstrap
  rw [hdata]
  refine .modify_bind ?_
  refine Body.Serves.bind (serves_resolveNetworkConfig hres) ?_ ?_
  · rintro t₁ out s₁ ⟨rfl, ⟨cfg, hout⟩, hk⟩
    cases hout
    have hget := hQ dataSecretName cfg s₁ ⟨hk.flags.trans hsame.flags, hk.marked.trans hsame.marked⟩
    dsimp only
    rw [harvester_of_client h.client]
    refine .request_bind ?_
    rw [show Site.serve sc.key answers t₁ (.getVM ⟨_, _⟩) = _ from serve_getVM h]
    exact hget
  · rintro t₁ s₁ ⟨-, ⟨cfg, hout⟩, -⟩
    cases hout

inductive Branch (m : HarvesterMachine) (node : Node) :
    Option (Option Outcome) → HarvesterMachine → Prop where
  | addressFound {out : Outcome} {s : HarvesterMachine} (notReady : m.status.ready = false)
      (ready : s.status.ready = true) : Branch m node (some (some out)) s
  | waiting {out : Outcome} {s : HarvesterMachine} (noID : m.spec.providerID = "")
      (noNodeID : node.providerID = "") : Branch m node (some (some out)) s
  | adopted {s : HarvesterMachine} (noID : m.spec.providerID = "")
      (id : s.spec.providerID = node.providerID) (id_ne : node.providerID ≠ "")
      (same : marked s = marked m) : Branch m node (some none) s
  | kept {s : HarvesterMachine} (ready : m.status.ready = true) (id_ne : m.spec.providerID ≠ "")
      (id : s.spec.providerID = m.spec.providerID) (recorded : marked s = true) :
      Branch m node (some none) s

theorem serves_reconcileExistingVM (h : Supplied sc answers m t vm interfaces)
    (hnode : t.node = some node) (hk : Kept m s) :
    Body.Serves (Site.serve sc.key answers) t
      (reconcileExistingVM sc (vmName sc.key sc.harvesterCluster) vm) s
      fun t' out s' => t' = t ∧ Branch m node out s' := by
  have hsame := Kept.setCondition
    ⟨.true_, "VMProvisioningReady", "VM already exists and is provisioned"⟩
    (by decide : "MachineCreated" ≠ "VMProvisioningReady") s
  unfold reconcileExistingVM
  refine .modify_bind ?_
  rw [harvester_of_client h.client, if_neg (by simp [h.runs])]
  refine .request_bind ?_
  rw [serve_getVMI h]
  refine .modify_bind (.get_bind ?_)
  dsimp only
  rw [if_neg fun hc => h.address hc.1]
  split_ifs with hcame hno
  · refine .modify_bind (.modify_bind ⟨rfl, .addressFound ?_ rfl⟩)
    rw [← hk.ready_eq]
    simpa using hcame.2
  · refine .request_bind ?_
    simp only [Site.serve, hnode]
    split_ifs with hne
    · exact .modify_bind (.modify_bind ⟨rfl, .adopted (hk.providerID_eq ▸ hno) rfl hne
        (hsame.marked.trans hk.marked)⟩)
    · exact ⟨rfl, .waiting (hk.providerID_eq ▸ hno) (not_not.mp hne)⟩
  · refine .modify_bind (.modify_bind ⟨rfl, .kept ?_ (hk.providerID_eq ▸ hno) hk.providerID_eq
      (marked_of_set _ _ rfl)⟩)
    by_contra hnr
    exact hcame ⟨h.address, by simpa [hk.ready_eq] using hnr⟩

/-- What follows the branch for the existing VM keeps the id, whatever the responses. -/
theorem serves_rest_providerID {h : Site → (r : Req) → Resp r × Site} (hm : m.deleting = false)
    (hid : m.spec.providerID = "") (hrun : isVMRunning vm.state = true)
    (hsame : marked s = marked m) (n : NamespacedName) (interfaces : List String)
    (dataSecretName : String) (netCfg : Option NetworkConfig) :
    Body.Serves h t (orElse (reconcileCreation ext sc dataSecretName netCfg true)
      (finishNormal sc)) s fun _ _ s' => s'.spec.providerID = s.spec.providerID := by
  let e : Sight := ⟨some m, some (n, .ok vm), some (.ok interfaces), none, none⟩
  have hc : marked s = false → e.Creates := fun h =>
    ⟨m, rfl, hm, hsame ▸ h, Or.inr ⟨hid, n, vm, interfaces, rfl, hrun, rfl⟩⟩
  have hwatch : Watch e (orElse (reconcileCreation ext sc dataSecretName netCfg true)
      (finishNormal sc)) s fun _ _ s' => s'.spec.providerID = s.spec.providerID := by
    refine watch_orElse (watch_reconcileCreation hc rfl dataSecretName netCfg true)
      (fun e₁ s₁ h₁ => ?_) fun e₁ out s₁ h₁ _ => ?_
    all_goals
      have hid₁ : s₁.spec.providerID = s.spec.providerID := by
        rcases h₁ with ⟨-, _, -, hf, -⟩ | ⟨-, -, ⟨-, hf, -⟩ | ⟨-, hf, -⟩⟩
        · exact congrArg Flags.providerID hf
        · exact congrArg Flags.providerID hf
        · exact congrArg Flags.providerID hf
    · refine watch_finishNormal.mono fun e₂ _ s₂ h₂ => ?_
      exact (congrArg Flags.providerID h₂.2).trans hid₁
    · exact hid₁
  exact (hwatch.serves t).mono fun _ _ _ ⟨_, h⟩ => h

/-- With the VM recorded, the pass ends with the Node initialized. -/
theorem serves_rest_node (hnode : t.node = some node) (hid : s.spec.providerID ≠ "")
    (hmark : marked s = true) (dataSecretName : String) (netCfg : Option NetworkConfig) :
    Body.Serves (Site.serve sc.key answers) t
      (orElse (reconcileCreation ext sc dataSecretName netCfg true) (finishNormal sc)) s
      fun t' _ _ => t'.node = some (initialized s.spec.providerID node) := by
  have hmark' : s.status.conditions.isTrue "MachineCreated" = true := hmark
  have hcreation : Body.Serves (Site.serve sc.key answers) t
      (reconcileCreation ext sc dataSecretName netCfg true) s
      fun t' out s' => t' = t ∧ out = some none ∧ s' = s := by
    refine .get_bind ?_
    rw [if_neg (by simp [hmark']), if_neg (by simp)]
    exact ⟨rfl, rfl, rfl⟩
  refine hcreation.bind ?_ fun _ _ h => absurd h.2.1 nofun
  rintro t' out s' ⟨rfl, hout, rfl⟩
  cases hout
  have hinit : Body.Serves (Site.serve sc.key answers) t' (initializeWorkloadNode sc)
      { s' with status := { s'.status with ready := true } }
      fun t₁ _ _ => t₁.node = some (initialized s'.spec.providerID node) := by
    refine .get_bind ?_
    rw [if_neg hid]
    refine .request_bind ?_
    show (Prog.serve NodeInit.answering t'.node _).2 = _
    rw [hnode, NodeInit.serve_initializeWorkloadNode hid]
  refine .modify_bind (hinit.bind (fun t₁ out s₁ h₁ => ?_) fun t₁ s₁ h₁ => h₁)
  split_ifs <;> exact h₁

/-- What a pass with every call succeeding brings forward. -/
inductive Advance (m : HarvesterMachine) (node : Node) (t : Site) (s : HarvesterMachine) :
    Prop where
  | ready (before : m.status.ready = false) (after : s.status.ready = true)
  | none (noID : m.spec.providerID = "") (noNodeID : node.providerID = "")
  | providerID (before : m.spec.providerID = "") (after : s.spec.providerID ≠ "")
  | node (ready : m.status.ready = true) (id_ne : m.spec.providerID ≠ "")
      (after : t.node = some (initialized m.spec.providerID node))

theorem serves_reconcileNormal (h : Supplied sc answers m t vm interfaces)
    (hnode : t.node = some node) (hf : machineFinalizer ∈ m.finalizers)
    (hres : AddressResolved m sc.harvesterCluster) :
    Body.Serves (Site.serve sc.key answers) t (reconcileNormal ext sc) m
      fun t' _ m' => Advance m node t' m' := by
  refine serves_upToVM h hf hres fun dataSecretName netCfg s hk => ?_
  refine (serves_reconcileExistingVM h hnode hk).bind ?_ fun _ _ h => nomatch h.2
  rintro t' out s' ⟨rfl, hbranch⟩
  cases hbranch with
  | addressFound hnr hready => exact .ready hnr hready
  | waiting hno hnode => exact .none hno hnode
  | adopted hno hid hne hsame =>
    refine (serves_rest_providerID h.alive hno h.runs hsame (vmName sc.key sc.harvesterCluster)
      interfaces dataSecretName netCfg).mono fun _ _ s'' h' => .providerID hno ?_
    rw [h', hid]
    exact hne
  | kept hready hne hid hmark =>
    refine (serves_rest_node hnode (hid ▸ hne) hmark dataSecretName netCfg).mono
      fun t'' _ _ h' => .node hready hne ?_
    rw [h', hid]

/-- A settled machine has its finalizer. -/
theorem Settled.finalizer (h : Settled ext sc answers m t) (hd : m.deleting = false) :
    machineFinalizer ∈ m.finalizers := by
  by_contra hf
  have hpass : Body.Serves (Site.serve sc.key answers) t (reconcileNormal ext sc) m
      fun _ _ m' => machineFinalizer ∈ m'.finalizers := by
    unfold reconcileNormal
    refine .get_bind ?_
    split_ifs with hlegacy hadd hinfra
    · exact .modify_bind (mem_migrateFinalizer _)
    · exact .modify_bind (.modify_bind (mem_addFinalizer.mpr (Or.inr rfl)))
    · exact absurd ⟨hf, by simp [hd]⟩ hadd
    · exact absurd ⟨hf, by simp [hd]⟩ hadd
  have hsame : _ ∧ _ := h
  exact hf (hsame.1.finalizers ▸ hpass)

end Settled

/-- A settled machine that has all it needs is complete, if and only if it or its Node has an id
and its two flags agree. -/
theorem settled_complete_iff (ext : Externals) (sc : Scope) (answers : (r : Req) → Answer r)
    (m : HarvesterMachine) (t : Site) (vm : VM) (interfaces : List String) (node : Node)
    (h : Supplied sc answers m t vm interfaces) (hnode : t.node = some node)
    (hres : AddressResolved m sc.harvesterCluster) (hsettled : Settled ext sc answers m t) :
    Complete m node ↔ (m.spec.providerID ≠ "" ∨ node.providerID ≠ "") ∧
      m.status.provisioned = m.status.ready := by
  have hpass : Body.Serves _ t (reconcileNormal ext sc) m fun t' _ m' => Advance m node t' m' :=
    serves_reconcileNormal h hnode (hsettled.finalizer h.alive) hres
  obtain ⟨hsame, hkept⟩ : _ ∧ _ := hsettled
  cases hpass with
  | ready hbefore hafter =>
    have hready := congrArg HarvesterMachineStatus.ready hsame.status
    exact absurd (hafter.symm.trans (hready.trans hbefore)) (by decide)
  | none hno hnode =>
    refine iff_of_false (fun hc => hc.providerID hno) fun hc => ?_
    rcases hc.1 with h | h
    · exact h hno
    · exact h hnode
  | providerID hno hne => exact absurd (hsame.spec ▸ hno) hne
  | node hready hne hinit =>
    have hself : initialized m.spec.providerID node = node :=
      Option.some.inj (hinit.symm.trans (hkept.trans hnode))
    obtain ⟨hid, htaint⟩ := (NodeInit.initialized_eq_self_iff hne).mp hself
    constructor
    · intro hc
      exact ⟨Or.inl hne, hc.provisioned.trans hready.symm⟩
    · rintro ⟨-, hagree⟩
      exact ⟨hne, hready, hagree.trans hready, hid, htaint⟩

namespace Sample

def answersWithNode (node : Node) : (r : Req) → Answer r
  | .getWorkloadClusterConfig _ => (.ok () : Except String Unit)
  | .getNodeProviderID _ => (.ok node.providerID : Except String String)
  | r => answersWithAddress (fun _ => .none) r

def passWithNode (node : Node) : List MachineAction :=
  .start keyA :: List.replicate 24 (.exec keyA (answersWithNode node))

def reconciled (node : Node) : ObservedState :=
  (observed ext).run (watched ["p"]) (created keyA [] ++ passWithNode node ++ passWithNode node ++
    passWithNode node ++ passWithNode node)

def machineAfter (node : Node) : HarvesterMachine :=
  ((reconciled node).world.machines.lookup keyA).getD ⟨false, [], false, machineSpec, .empty⟩

def scopeAfter (node : Node) : Scope :=
  { scopeA with
    harvesterCluster :=
      ((reconciled node).world.clusters.lookup clusterKey).getD (clusterWith ["p"]) }

def siteAfter (node : Node) : Site := ⟨(reconciled node).world, some node⟩

theorem succeeds_answersWithNode (node : Node) (r : Req) :
    Succeeds r (answersWithNode node r) = true := by
  cases r <;> rfl

def passAfter (node : Node) : (Option Outcome × HarvesterMachine) × Site :=
  Prog.serve (Site.serve (scopeAfter node).key (answersWithNode node)) (siteAfter node)
    (reconcileNormal ext (scopeAfter node) (machineAfter node))

theorem passAfter_eq (node : Node) :
    Prog.serve (Site.serve (scopeAfter node).key (answersWithNode node)) (siteAfter node)
      (reconcileNormal ext (scopeAfter node) (machineAfter node)) = passAfter node := by
  rw [passAfter]

/-- A pass that leaves the object equal leaves it unchanged. -/
theorem settled_of_eq {sc : Scope} {answers : (r : Req) → Answer r} {m : HarvesterMachine}
    {t : Site} {out : (Option Outcome × HarvesterMachine) × Site}
    (hout : Prog.serve (Site.serve sc.key answers) t (reconcileNormal ext sc m) = out)
    (hm : out.1.2 = m) (hnode : out.2.node = t.node) : Settled ext sc answers m t := by
  subst hout
  refine ⟨?_, hnode⟩
  rw [hm]
  exact ⟨rfl, rfl, rfl, fun _ => rfl⟩

/-- What machine `a` needs is there. -/
theorem supplied_after (node : Node) (halive : (machineAfter node).deleting = false)
    (hvm : ((siteAfter node).world.vms.lookup (vmName keyA (scopeAfter node).harvesterCluster)).map
      (fun vm => isVMRunning vm.state) = some true) :
    ∃ vm, Supplied (scopeAfter node) (answersWithNode node) (machineAfter node) (siteAfter node) vm
      ["10.0.0.2"] := by
  obtain ⟨vm, hfound, hrun⟩ := Option.map_eq_some_iff.mp hvm
  exact ⟨vm, succeeds_answersWithNode _, halive, rfl, rfl, nofun, hfound, hrun, rfl, by decide⟩

def freshNode : Node := ⟨"", [⟨NodeInit.uninitializedTaintKey, "true", "NoSchedule"⟩]⟩

def doneNode : Node := ⟨"harvester://a", []⟩

end Sample

open Sample in
theorem settled_complete_sample :
    Complete (Sample.machineAfter Sample.doneNode) Sample.doneNode := by
  obtain ⟨halive, hvm, hm, hnode, hres, hdone⟩ : (machineAfter doneNode).deleting = false ∧
      ((siteAfter doneNode).world.vms.lookup (vmName keyA
        (scopeAfter doneNode).harvesterCluster)).map (fun vm => isVMRunning vm.state) = some true ∧
      (passAfter doneNode).1.2 = machineAfter doneNode ∧
      (passAfter doneNode).2.node = (siteAfter doneNode).node ∧
      (machineAfter doneNode).status.allocatedIPAddress ≠ "" ∧
      ((machineAfter doneNode).spec.providerID ≠ "" ∨ doneNode.providerID ≠ "") ∧
        (machineAfter doneNode).status.provisioned = (machineAfter doneNode).status.ready := by
    decide +kernel
  obtain ⟨vm, hsupplied⟩ := supplied_after doneNode halive hvm
  exact (settled_complete_iff ext _ _ _ _ _ _ doneNode hsupplied rfl (Or.inl hres)
    (settled_of_eq (passAfter_eq doneNode) hm hnode)).mpr hdone

/-- A machine whose Node has registered without an id waits for it, and nothing sets it. -/
theorem settled_without_id :
    (∃ vm, Supplied (Sample.scopeAfter Sample.freshNode) (Sample.answersWithNode Sample.freshNode)
      (Sample.machineAfter Sample.freshNode) (Sample.siteAfter Sample.freshNode) vm ["10.0.0.2"]) ∧
    Settled Sample.ext (Sample.scopeAfter Sample.freshNode)
      (Sample.answersWithNode Sample.freshNode) (Sample.machineAfter Sample.freshNode)
      (Sample.siteAfter Sample.freshNode) ∧
    (Sample.machineAfter Sample.freshNode).spec.providerID = "" ∧
    (Sample.machineAfter Sample.freshNode).status.provisioned = false ∧
    hasUninitializedTaint Sample.freshNode = true := by
  obtain ⟨halive, hvm, hm, hnode, hrest⟩ :
      (Sample.machineAfter Sample.freshNode).deleting = false ∧
      ((Sample.siteAfter Sample.freshNode).world.vms.lookup (vmName Sample.keyA
        (Sample.scopeAfter Sample.freshNode).harvesterCluster)).map
          (fun vm => isVMRunning vm.state) = some true ∧
      (Sample.passAfter Sample.freshNode).1.2 = Sample.machineAfter Sample.freshNode ∧
      (Sample.passAfter Sample.freshNode).2.node = (Sample.siteAfter Sample.freshNode).node ∧
      (Sample.machineAfter Sample.freshNode).spec.providerID = "" ∧
      (Sample.machineAfter Sample.freshNode).status.provisioned = false ∧
      hasUninitializedTaint Sample.freshNode = true := by decide +kernel
  exact ⟨Sample.supplied_after _ halive hvm,
    Sample.settled_of_eq (Sample.passAfter_eq _) hm hnode, hrest⟩

end Caphv.Machine
