import Caphv.ApiObjects

namespace Caphv

structure NetworkConfig where
  address : String
  gateway : String
  dnsServers : List String
  dnsSearch : List String
  deriving DecidableEq

structure IpPoolSpec where
  vmNetwork : String
  subnet : String
  gateway : String
  rangeStart : String
  rangeEnd : String
  deriving DecidableEq, Inhabited

structure VMNetworkConfig where
  ipPoolRef : String
  ipPoolRefs : List String
  ipPool : Option IpPoolSpec
  gateway : String
  subnetMask : String
  dnsServers : List String
  dnsSearch : List String
  deriving DecidableEq

def VMNetworkConfig.getIPPoolRefs (v : VMNetworkConfig) : List String :=
  if v.ipPoolRefs ≠ [] then v.ipPoolRefs
  else if v.ipPoolRef ≠ "" then [v.ipPoolRef]
  else []

inductive NodeSelectorOperator where
  | in_
  | notIn
  | exists_
  | doesNotExist
  | gt
  | lt
  deriving DecidableEq

structure NodeSelectorRequirement where
  key : String
  operator : NodeSelectorOperator
  values : List String
  deriving DecidableEq

structure NodeSelectorTerm where
  matchExpressions : List NodeSelectorRequirement
  matchFields : List NodeSelectorRequirement
  deriving DecidableEq

structure PreferredSchedulingTerm where
  weight : ℤ
  preference : NodeSelectorTerm
  deriving DecidableEq

/-- `NodeAffinity`; the required part is the list of its node selector terms, `none` for the
nil pointer. -/
structure NodeAffinity where
  required : Option (List NodeSelectorTerm)
  preferred : List PreferredSchedulingTerm
  deriving DecidableEq

/-- `PodAffinity`, which is only handed on: its JSON text. -/
structure PodAffinity where
  json : String
  deriving DecidableEq

def machineFinalizer : String := "harvestermachine.infrastructure.cluster.x-k8s.io/finalizer"

def machineFinalizerLegacy : String := "harvestermachine.infrastructure.cluster.x-k8s.io"

inductive VolumeType where
  | image
  | storageClass
  deriving DecidableEq

/-- `Volume`; the size is the text of a quantity, `none` for the nil pointer. -/
structure Volume where
  volumeType : VolumeType
  imageName : String
  storageClass : String
  volumeSize : Option String
  bootOrder : ℤ
  deriving DecidableEq

structure HarvesterMachineSpec where
  providerID : String
  failureDomain : String
  memory : String
  sshKeyPair : String
  volumes : List Volume
  networks : List String
  networkConfig : Option NetworkConfig
  vmNetworkConfig : Option VMNetworkConfig
  nodeAffinity : Option NodeAffinity
  workloadAffinity : Option PodAffinity
  deriving DecidableEq

def HarvesterMachineSpec.requiredTerms (spec : HarvesterMachineSpec) :
    Option (List NodeSelectorTerm) :=
  spec.nodeAffinity.bind NodeAffinity.required

/-- The spec with the required terms of a patch. Nothing in this controller removes them, so
no patch does; a node affinity that is gone comes back with the terms alone. -/
def HarvesterMachineSpec.setRequiredTerms (spec : HarvesterMachineSpec)
    (terms : Option (List NodeSelectorTerm)) : HarvesterMachineSpec :=
  match terms with
  | none => spec
  | some terms =>
    { spec with
      nodeAffinity := some { spec.nodeAffinity.getD ⟨none, []⟩ with required := some terms } }

structure HarvesterMachineStatus where
  ready : Bool
  conditions : Conditions
  addresses : List String
  provisioned : Bool
  allocatedIPAddress : String
  allocatedPoolRef : String
  failureDomain : String
  deriving DecidableEq

def HarvesterMachineStatus.empty : HarvesterMachineStatus where
  ready := false
  conditions := ∅
  addresses := []
  provisioned := false
  allocatedIPAddress := ""
  allocatedPoolRef := ""
  failureDomain := ""

/-- The pool and the address that the status records. -/
def HarvesterMachineStatus.allocation (st : HarvesterMachineStatus) : Option (String × String) :=
  if st.allocatedIPAddress = "" then none else some (st.allocatedPoolRef, st.allocatedIPAddress)

/-- `HarvesterMachine`; its namespace and name are the key it is stored under. -/
structure HarvesterMachine where
  controlPlane : Bool
  finalizers : List String
  deleting : Bool
  spec : HarvesterMachineSpec
  status : HarvesterMachineStatus
  deriving DecidableEq

def HarvesterMachine.markPaused (m : HarvesterMachine) (p : Condition) : HarvesterMachine :=
  { m with status := { m.status with conditions := m.status.conditions.set "Paused" p } }

def addFinalizer (finalizers : List String) (f : String) : List String :=
  if f ∈ finalizers then finalizers else finalizers ++ [f]

def removeFinalizer (finalizers : List String) (f : String) : List String :=
  finalizers.filter (· ≠ f)

theorem mem_addFinalizer {fs : List String} {f g : String} :
    g ∈ addFinalizer fs f ↔ g ∈ fs ∨ g = f := by
  rw [addFinalizer]
  split_ifs with h
  · exact ⟨Or.inl, fun hg => hg.elim id fun hg => hg ▸ h⟩
  · simp

theorem mem_removeFinalizer {fs : List String} {f g : String} :
    g ∈ removeFinalizer fs f ↔ g ∈ fs ∧ g ≠ f := by
  simp [removeFinalizer]

def clusterFinalizer : String := "harvester.infrastructure.cluster.x-k8s.io/finalizer"

def clusterFinalizerLegacy : String := "harvester.infrastructure.cluster.x-k8s.io"

/-- `IPAMType`, a string in Go; admission lets only the two constants pass. -/
inductive IPAMType where
  | dhcp
  | pool
  | other (name : String)
  deriving DecidableEq, Inhabited

structure Listener where
  name : String
  port : ℤ
  protocol : String
  backendPort : ℤ
  deriving DecidableEq, Inhabited

structure LoadBalancerConfig where
  ipamType : IPAMType
  ipPoolRef : String
  ipPool : IpPoolSpec
  listeners : List Listener
  deriving DecidableEq, Inhabited

structure APIEndpoint where
  host : String
  port : ℤ
  deriving DecidableEq, Inhabited

structure UpdateCloudProviderConfig where
  manifestsConfigMapNamespace : String
  manifestsConfigMapName : String
  manifestsConfigMapKey : String
  cloudConfigCredentialsSecretName : String
  cloudConfigCredentialsSecretKey : String
  deriving DecidableEq, Inhabited

structure HarvesterClusterSpec where
  server : String
  identitySecret : NamespacedName
  loadBalancerConfig : LoadBalancerConfig
  controlPlaneEndpoint : APIEndpoint
  targetNamespace : String
  updateCloudProviderConfig : UpdateCloudProviderConfig
  vmNetworkConfig : Option VMNetworkConfig
  deriving DecidableEq, Inhabited

structure FailureDomain where
  name : String
  controlPlane : Bool
  topologyKey : String
  deriving DecidableEq, Inhabited

structure HarvesterClusterStatus where
  ready : Bool
  conditions : Conditions
  provisioned : Bool
  failureDomains : List FailureDomain
  deriving DecidableEq, Inhabited

def HarvesterClusterStatus.empty : HarvesterClusterStatus where
  ready := false
  conditions := ∅
  provisioned := false
  failureDomains := []

structure HarvesterCluster where
  finalizers : List String
  deleting : Bool
  spec : HarvesterClusterSpec
  status : HarvesterClusterStatus
  deriving DecidableEq, Inhabited

def HarvesterCluster.markPaused (c : HarvesterCluster) (p : Condition) : HarvesterCluster :=
  { c with status := { c.status with conditions := c.status.conditions.set "Paused" p } }

theorem HarvesterCluster.lookup_markPaused (c : HarvesterCluster) (p : Condition) {type : String}
    (h : type ≠ "Paused") :
    (c.markPaused p).status.conditions.lookup type = c.status.conditions.lookup type := by
  rw [markPaused, Conditions.lookup_set, if_neg h]

/-- The clusters differ at most in the Paused condition. -/
structure SameButPaused (c c' : HarvesterCluster) : Prop where
  eq : c' = { c with status := { c.status with conditions := c'.status.conditions } }
  conditions : ∀ type, type ≠ "Paused" →
    c'.status.conditions.lookup type = c.status.conditions.lookup type

theorem SameButPaused.refl (c : HarvesterCluster) : SameButPaused c c := ⟨rfl, fun _ _ => rfl⟩

theorem SameButPaused.trans {a b c : HarvesterCluster} (h : SameButPaused a b)
    (h' : SameButPaused b c) : SameButPaused a c where
  eq := by
    rw [h'.eq, h.eq]
  conditions type ht := (h'.conditions type ht).trans (h.conditions type ht)

theorem SameButPaused.markPaused (c : HarvesterCluster) (p : Condition) :
    SameButPaused c (c.markPaused p) := ⟨rfl, fun _ ht => c.lookup_markPaused p ht⟩

/-- `effectiveVMNetworkConfig`: the machine-level configuration when set. -/
def effectiveVMNetworkConfig (m : HarvesterMachine) (c : HarvesterCluster) :
    Option VMNetworkConfig :=
  m.spec.vmNetworkConfig.or c.spec.vmNetworkConfig

structure OwnerMachine where
  key : ObjectKey
  dataSecretName : Option String
  failureDomain : String
  deriving DecidableEq

/-- The owner `Cluster`; `infrastructureRef` is in its own namespace. -/
structure OwnerCluster where
  key : ObjectKey
  infrastructureRef : ObjectKey
  infrastructureProvisioned : Option Bool
  deriving DecidableEq

def effectiveFailureDomain (owner : OwnerMachine) (m : HarvesterMachine) : String :=
  if owner.failureDomain ≠ "" then owner.failureDomain else m.spec.failureDomain

end Caphv
