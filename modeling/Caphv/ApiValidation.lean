import Caphv.ApiConversion
import Caphv.ClusterWorld

namespace Caphv

open Api

namespace Api

/-- The texts that come from Go: the verb `%q`, and the error of `resource.ParseQuantity`, if
the text is no quantity. -/
structure Texts where
  quote : String → String
  quantityError : String → Option String

def check (bad : Bool) (message : String) : List String := if bad then [message] else []

def checkIP (text : Texts) (field missing value : String) : List String :=
  if value = "" then [field ++ " " ++ missing]
  else check (Net.parseIP value = none)
    (field ++ " " ++ text.quote value ++ " is not a valid IP address")

def checkQuantity (text : Texts) (memory : String) : List String :=
  if memory = "" then ["spec.memory is required"]
  else match text.quantityError memory with
    | none => []
    | some err =>
      ["spec.memory " ++ text.quote memory ++ " is not a valid resource quantity: " ++ err]

def checkVolume (i : ℕ) (volumeType imageName storageClass : String) : List String :=
  let field := "spec.volumes[" ++ toString i ++ "]"
  check (volumeType ≠ "image" ∧ volumeType ≠ "storageClass")
    (field ++ ".volumeType must be 'image' or 'storageClass'") ++
  check (volumeType = "image" ∧ imageName = "")
    (field ++ ".imageName is required when volumeType is 'image'") ++
  check (volumeType = "storageClass" ∧ storageClass = "")
    (field ++ ".storageClass is required when volumeType is 'storageClass'")

def checkVolumes (volumes : List (String × String × String)) : List String :=
  (volumes.mapIdx fun i vol => checkVolume i vol.1 vol.2.1 vol.2.2).flatten

def rejection {K : Core} (kind : String) (object : ObjectMeta K) (errs : List String) :
    Option String :=
  if errs = [] then none
  else some ("validation failed for " ++ kind ++ " " ++ object.ns ++ "/" ++ object.name ++ ": " ++
    String.intercalate "; " errs)

end Api

namespace V1Alpha1

variable {K : Core} (text : Texts)

def validateMachineVMNetworkConfig (r : HarvesterMachine K) : List String :=
  match r.spec.vmNetworkConfig with
  | none => []
  | some vmCfg =>
    check r.spec.networkConfig.isSome
      "spec.vmNetworkConfig and spec.networkConfig are mutually exclusive" ++
    check vmCfg.ipPool.isSome ("spec.vmNetworkConfig.ipPool is not supported at the machine " ++
      "level; use ipPoolRef or ipPoolRefs") ++
    check (vmCfg.getIPPoolRefs = [])
      "spec.vmNetworkConfig requires one of ipPoolRef or ipPoolRefs" ++
    checkIP text "spec.vmNetworkConfig.gateway" "is required" vmCfg.gateway ++
    checkIP text "spec.vmNetworkConfig.subnetMask" "is required" vmCfg.subnetMask

def harvesterMachineErrors (r : HarvesterMachine K) : List String :=
  check (r.spec.cpu = 0) "spec.cpu must be greater than 0" ++
  checkQuantity text r.spec.memory ++
  check (r.spec.sshUser = "") "spec.sshUser is required" ++
  check (r.spec.sshKeyPair = "") "spec.sshKeyPair is required" ++
  check (r.spec.volumes.elems = []) "spec.volumes must contain at least one volume" ++
  checkVolumes (r.spec.volumes.elems.map fun vol =>
    (vol.volumeType, vol.imageName, vol.storageClass)) ++
  check (r.spec.networks.elems = []) "spec.networks must contain at least one network" ++
  (match r.spec.networkConfig with
    | none => []
    | some cfg =>
      check (cfg.address = "") "spec.networkConfig.address is required when networkConfig is set" ++
      checkIP text "spec.networkConfig.gateway" "is required when networkConfig is set"
        cfg.gateway) ++
  validateMachineVMNetworkConfig text r ++
  (match r.spec.firmware with
    | none => []
    | some fw => check (fw.secureBoot && !fw.efi)
        "spec.firmware.secureBoot requires spec.firmware.efi to be true")

def validateHarvesterMachine (r : HarvesterMachine K) : Option String :=
  rejection "HarvesterMachine" r.objectMeta (harvesterMachineErrors text r)

def harvesterClusterErrors (r : HarvesterCluster K) : List String :=
  check (r.spec.targetNamespace = "") "spec.targetNamespace is required" ++
  check (r.spec.identitySecret.name = "") "spec.identitySecret.name is required" ++
  check (r.spec.identitySecret.ns = "") "spec.identitySecret.namespace is required" ++
  check (r.spec.loadBalancerConfig.ipamType ≠ "dhcp" ∧
      r.spec.loadBalancerConfig.ipamType ≠ "pool")
    "spec.loadBalancerConfig.ipamType must be \"dhcp\" or \"pool\"" ++
  match r.spec.vmNetworkConfig with
  | none => []
  | some vmCfg =>
    check (vmCfg.getIPPoolRefs = [] ∧ vmCfg.ipPool.isNone)
      "spec.vmNetworkConfig requires one of ipPoolRef, ipPoolRefs or ipPool" ++
    checkIP text "spec.vmNetworkConfig.gateway" "is required" vmCfg.gateway ++
    checkIP text "spec.vmNetworkConfig.subnetMask" "is required" vmCfg.subnetMask

def validateHarvesterCluster (r : HarvesterCluster K) : Option String :=
  rejection "HarvesterCluster" r.objectMeta (harvesterClusterErrors text r)

end V1Alpha1

namespace V1Beta1

variable {K : Core} (text : Texts)

def validateMachineVMNetworkConfig (r : HarvesterMachine K) : List String :=
  match r.spec.vmNetworkConfig with
  | none => []
  | some vmCfg =>
    check r.spec.networkConfig.isSome
      "spec.vmNetworkConfig and spec.networkConfig are mutually exclusive" ++
    check vmCfg.ipPool.isSome ("spec.vmNetworkConfig.ipPool is not supported at the machine " ++
      "level; use ipPoolRef or ipPoolRefs") ++
    check (vmCfg.getIPPoolRefs = [])
      "spec.vmNetworkConfig requires one of ipPoolRef or ipPoolRefs" ++
    checkIP text "spec.vmNetworkConfig.gateway" "is required" vmCfg.gateway ++
    checkIP text "spec.vmNetworkConfig.subnetMask" "is required" vmCfg.subnetMask

def harvesterMachineErrors (r : HarvesterMachine K) : List String :=
  check (r.spec.cpu = 0) "spec.cpu must be greater than 0" ++
  checkQuantity text r.spec.memory ++
  check (r.spec.sshUser = "") "spec.sshUser is required" ++
  check (r.spec.sshKeyPair = "") "spec.sshKeyPair is required" ++
  check (r.spec.volumes.elems = []) "spec.volumes must contain at least one volume" ++
  checkVolumes (r.spec.volumes.elems.map fun vol =>
    (vol.volumeType, vol.imageName, vol.storageClass)) ++
  check (r.spec.networks.elems = []) "spec.networks must contain at least one network" ++
  (match r.spec.networkConfig with
    | none => []
    | some cfg =>
      check (cfg.address = "") "spec.networkConfig.address is required when networkConfig is set" ++
      checkIP text "spec.networkConfig.gateway" "is required when networkConfig is set"
        cfg.gateway) ++
  validateMachineVMNetworkConfig text r ++
  (match r.spec.firmware with
    | none => []
    | some fw => check (fw.secureBoot && !fw.efi)
        "spec.firmware.secureBoot requires spec.firmware.efi to be true")

def validateHarvesterMachine (r : HarvesterMachine K) : Option String :=
  rejection "HarvesterMachine" r.objectMeta (harvesterMachineErrors text r)

def harvesterClusterErrors (r : HarvesterCluster K) : List String :=
  check (r.spec.targetNamespace = "") "spec.targetNamespace is required" ++
  check (r.spec.identitySecret.name = "") "spec.identitySecret.name is required" ++
  check (r.spec.identitySecret.ns = "") "spec.identitySecret.namespace is required" ++
  check (r.spec.loadBalancerConfig.ipamType ≠ "dhcp" ∧
      r.spec.loadBalancerConfig.ipamType ≠ "pool")
    "spec.loadBalancerConfig.ipamType must be \"dhcp\" or \"pool\"" ++
  match r.spec.vmNetworkConfig with
  | none => []
  | some vmCfg =>
    check (vmCfg.getIPPoolRefs = [] ∧ vmCfg.ipPool.isNone)
      "spec.vmNetworkConfig requires one of ipPoolRef, ipPoolRefs or ipPool" ++
    checkIP text "spec.vmNetworkConfig.gateway" "is required" vmCfg.gateway ++
    checkIP text "spec.vmNetworkConfig.subnetMask" "is required" vmCfg.subnetMask

def validateHarvesterCluster (r : HarvesterCluster K) : Option String :=
  rejection "HarvesterCluster" r.objectMeta (harvesterClusterErrors text r)

end V1Beta1

section Agreement

variable {K : Core} (text : Texts)

theorem elems_map {α β : Type} (f : α → β) (s : Slice α) :
    Slice.elems (s.map (List.map f)) = s.elems.map f := by
  cases s with
  | none => rfl
  | some xs => rfl

theorem validateMachineVMNetworkConfig_convertTo (m : V1Alpha1.HarvesterMachine K)
    (h : V1Beta1.HarvesterMachine K) (hspec : h.spec = V1Alpha1.convertMachineSpecTo m.spec) :
    V1Beta1.validateMachineVMNetworkConfig text h =
      V1Alpha1.validateMachineVMNetworkConfig text m := by
  unfold V1Beta1.validateMachineVMNetworkConfig V1Alpha1.validateMachineVMNetworkConfig
  rw [hspec]
  cases hc : m.spec.vmNetworkConfig with
  | none => simp [V1Alpha1.convertMachineSpecTo, V1Alpha1.convertVMNetworkConfigTo, hc]
  | some cfg =>
    simp only [V1Alpha1.convertMachineSpecTo, V1Alpha1.convertVMNetworkConfigTo, hc,
      Option.map_some, Option.isSome_map]
    rfl

theorem harvesterMachineErrors_convertTo (m : V1Alpha1.HarvesterMachine K)
    (h : V1Beta1.HarvesterMachine K) (hspec : h.spec = V1Alpha1.convertMachineSpecTo m.spec) :
    V1Beta1.harvesterMachineErrors text h = V1Alpha1.harvesterMachineErrors text m := by
  have hvm := validateMachineVMNetworkConfig_convertTo text m h hspec
  have hvols : h.spec.volumes.elems = m.spec.volumes.elems.map V1Alpha1.convertVolumeTo := by
    rw [hspec]
    exact elems_map _ _
  have hfields : (h.spec.volumes.elems.map fun vol =>
      (vol.volumeType, vol.imageName, vol.storageClass)) =
        m.spec.volumes.elems.map fun vol =>
          (vol.volumeType, vol.imageName, vol.storageClass) := by
    rw [hvols, List.map_map]
    rfl
  have hempty : (h.spec.volumes.elems = []) = (m.spec.volumes.elems = []) := by
    rw [hvols, List.map_eq_nil_iff]
  unfold V1Beta1.harvesterMachineErrors V1Alpha1.harvesterMachineErrors
  simp only [hvm, hfields, hempty]
  rw [hspec]
  simp only [V1Alpha1.convertMachineSpecTo]
  -- Only the two optional blocks are left to compare.
  cases m.spec.networkConfig <;> cases m.spec.firmware <;> rfl

theorem harvesterClusterErrors_convertTo (c : V1Alpha1.HarvesterCluster K)
    (h : V1Beta1.HarvesterCluster K) (hspec : h.spec = V1Alpha1.convertClusterSpecTo c.spec) :
    V1Beta1.harvesterClusterErrors text h = V1Alpha1.harvesterClusterErrors text c := by
  unfold V1Beta1.harvesterClusterErrors V1Alpha1.harvesterClusterErrors
  rw [hspec]
  cases hc : c.spec.vmNetworkConfig with
  | none =>
    simp only [V1Alpha1.convertClusterSpecTo, V1Alpha1.convertVMNetworkConfigTo, hc,
      Option.map_none]
    rfl
  | some cfg =>
    simp only [V1Alpha1.convertClusterSpecTo, V1Alpha1.convertVMNetworkConfigTo, hc,
      Option.map_some, Option.isNone_map]
    rfl

/-- An object that one version's webhook rejects is rejected by the other's after conversion,
with the same messages in the same order and the same error. -/
theorem validators_agree (K : Core) (text : Texts) :
    (∀ (m : V1Alpha1.HarvesterMachine K) (h₀ : V1Beta1.HarvesterMachine K),
      ∃ h, m.convertTo (.harvesterMachine h₀) = .ok (.harvesterMachine h) ∧
        V1Beta1.harvesterMachineErrors text h = V1Alpha1.harvesterMachineErrors text m ∧
        V1Beta1.validateHarvesterMachine text h = V1Alpha1.validateHarvesterMachine text m) ∧
    ∀ (c : V1Alpha1.HarvesterCluster K) (h₀ : V1Beta1.HarvesterCluster K),
      ∃ h, c.convertTo (.harvesterCluster h₀) = .ok (.harvesterCluster h) ∧
        V1Beta1.harvesterClusterErrors text h = V1Alpha1.harvesterClusterErrors text c ∧
        V1Beta1.validateHarvesterCluster text h = V1Alpha1.validateHarvesterCluster text c := by
  constructor
  · intro m h₀
    refine ⟨_, rfl, harvesterMachineErrors_convertTo text m _ rfl, ?_⟩
    unfold V1Beta1.validateHarvesterMachine V1Alpha1.validateHarvesterMachine
    rw [harvesterMachineErrors_convertTo text m _ rfl]
  · intro c h₀
    refine ⟨_, rfl, harvesterClusterErrors_convertTo text c _ rfl, ?_⟩
    unfold V1Beta1.validateHarvesterCluster V1Alpha1.validateHarvesterCluster
    rw [harvesterClusterErrors_convertTo text c _ rfl]

end Agreement

namespace V1Beta1

variable {K : Core}

def IpPool.model (p : IpPool) : IpPoolSpec :=
  ⟨p.vmNetwork, p.subnet, p.gateway, p.rangeStart, p.rangeEnd⟩

def VMNetworkConfig.model (v : VMNetworkConfig) : Caphv.VMNetworkConfig where
  ipPoolRef := v.ipPoolRef
  ipPoolRefs := v.ipPoolRefs.elems
  ipPool := v.ipPool.map IpPool.model
  gateway := v.gateway
  subnetMask := v.subnetMask
  dnsServers := v.dnsServers.elems
  dnsSearch := v.dnsSearch.elems

def ipamType (name : String) : IPAMType :=
  if name = "dhcp" then .dhcp else if name = "pool" then .pool else .other name

def LoadBalancerConfig.model (c : LoadBalancerConfig) : Caphv.LoadBalancerConfig where
  ipamType := V1Beta1.ipamType c.ipamType
  ipPoolRef := c.ipPoolRef
  ipPool := c.ipPool.model
  listeners := c.listeners.elems.map fun l =>
    ⟨l.name, l.port.toInt, l.protocol, l.backendPort.toInt⟩

/-- A stored spec as the cluster controller sees it: nil and empty slices are the same to it. -/
def HarvesterClusterSpec.model (endpoint : K.APIEndpoint → APIEndpoint)
    (spec : HarvesterClusterSpec K) : Caphv.HarvesterClusterSpec where
  server := spec.server
  identitySecret := ⟨spec.identitySecret.ns, spec.identitySecret.name⟩
  loadBalancerConfig := spec.loadBalancerConfig.model
  controlPlaneEndpoint := endpoint spec.controlPlaneEndpoint
  targetNamespace := spec.targetNamespace
  updateCloudProviderConfig :=
    { manifestsConfigMapNamespace := spec.updateCloudProviderConfig.manifestsConfigMapNamespace
      manifestsConfigMapName := spec.updateCloudProviderConfig.manifestsConfigMapName
      manifestsConfigMapKey := spec.updateCloudProviderConfig.manifestsConfigMapKey
      cloudConfigCredentialsSecretName :=
        spec.updateCloudProviderConfig.cloudConfigCredentialsSecretName
      cloudConfigCredentialsSecretKey :=
        spec.updateCloudProviderConfig.cloudConfigCredentialsSecretKey }
  vmNetworkConfig := spec.vmNetworkConfig.map VMNetworkConfig.model

theorem ipamType_unknown (name : String) :
    (ipamType name ≠ .dhcp ∧ ipamType name ≠ .pool) ↔ (name ≠ "dhcp" ∧ name ≠ "pool") := by
  unfold ipamType
  split_ifs with hd hp
  · simp [hd]
  · simp [hp]
  · simp [hd, hp]

theorem getIPPoolRefs_model (v : VMNetworkConfig) : v.model.getIPPoolRefs = v.getIPPoolRefs := rfl

/-- The admission check of the cluster system is the one of the stored version. -/
theorem harvesterClusterErrors_model (text : Texts) (endpoint : K.APIEndpoint → APIEndpoint)
    (r : HarvesterCluster K) :
    Cluster.validateHarvesterCluster text.quote (r.spec.model endpoint) =
      harvesterClusterErrors text r := by
  have hip : ∀ field value : String,
      (if value = "" then [field ++ " is required"]
        else if Net.parseIP value = none then
          [field ++ " " ++ text.quote value ++ " is not a valid IP address"]
        else []) = checkIP text field "is required" value := by
    intro field value
    simp [checkIP, check, String.append_assoc]
  unfold Cluster.validateHarvesterCluster harvesterClusterErrors
  simp only [hip, check, HarvesterClusterSpec.model, LoadBalancerConfig.model, ipamType_unknown,
    decide_eq_true_eq]
  cases r.spec.vmNetworkConfig with
  | none => rfl
  | some cfg =>
    have hpool : (cfg.model.ipPool = none) = (cfg.ipPool.isNone = true) := by
      simp [VMNetworkConfig.model]
    simp only [Option.map_some, getIPPoolRefs_model, hpool]
    rfl

/-- How the controllers read the types that the API only copies. -/
structure MachineReading (K : Core) where
  quantity : K.Quantity → String
  nodeAffinity : K.NodeAffinity → NodeAffinity
  podAffinity : K.PodAffinity → PodAffinity

/-- The enumeration behind the string; admission lets only the two constants pass. -/
def volumeType (name : String) : VolumeType := if name = "image" then .image else .storageClass

def Volume.model (read : MachineReading K) (vol : Volume K) : Caphv.Volume where
  volumeType := V1Beta1.volumeType vol.volumeType
  imageName := vol.imageName
  storageClass := vol.storageClass
  volumeSize := vol.volumeSize.map read.quantity
  bootOrder := vol.bootOrder.toInt

def NetworkConfig.model (cfg : NetworkConfig) : Caphv.NetworkConfig where
  address := cfg.address
  gateway := cfg.gateway
  dnsServers := cfg.dnsServers.elems
  dnsSearch := cfg.dnsSearch.elems

def HarvesterMachineSpec.model (read : MachineReading K) (spec : HarvesterMachineSpec K) :
    Caphv.HarvesterMachineSpec where
  providerID := spec.providerID
  failureDomain := spec.failureDomain
  memory := spec.memory
  sshKeyPair := spec.sshKeyPair
  volumes := spec.volumes.elems.map (Volume.model read)
  networks := spec.networks.elems
  networkConfig := spec.networkConfig.map NetworkConfig.model
  vmNetworkConfig := spec.vmNetworkConfig.map VMNetworkConfig.model
  nodeAffinity := spec.nodeAffinity.map read.nodeAffinity
  workloadAffinity := spec.workloadAffinity.map read.podAffinity

theorem parsesMemory_of_admitted {text : Texts} {r : HarvesterMachine K}
    (h : validateHarvesterMachine text r = none) : text.quantityError r.spec.memory = none := by
  have hall : harvesterMachineErrors text r = [] := by
    by_contra hne
    rw [validateHarvesterMachine, rejection, if_neg hne] at h
    cases h
  simp only [harvesterMachineErrors, List.append_eq_nil_iff] at hall
  have hmemory : checkQuantity text r.spec.memory = [] := by tauto
  unfold checkQuantity at hmemory
  split_ifs at hmemory
  split at hmemory
  · assumption
  · cases hmemory

end V1Beta1

end Caphv
