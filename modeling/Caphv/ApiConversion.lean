import Caphv.ApiVersions

namespace Caphv

open Api

namespace V1Alpha1

/-! Where the source writes a Go conversion between two struct types with the same fields, the
fields are listed here. -/

def convertSecretKeyTo (src : SecretKey) : V1Beta1.SecretKey :=
  ⟨src.ns, src.name⟩

def convertSecretKeyFrom (src : V1Beta1.SecretKey) : SecretKey :=
  ⟨src.ns, src.name⟩

def convertIpPoolTo (src : IpPool) : V1Beta1.IpPool :=
  ⟨src.vmNetwork, src.subnet, src.gateway, src.rangeStart, src.rangeEnd⟩

def convertIpPoolFrom (src : V1Beta1.IpPool) : IpPool :=
  ⟨src.vmNetwork, src.subnet, src.gateway, src.rangeStart, src.rangeEnd⟩

def convertListenerTo (src : Listener) : V1Beta1.Listener :=
  ⟨src.name, src.port, src.protocol, src.backendPort⟩

def convertListenerFrom (src : V1Beta1.Listener) : Listener :=
  ⟨src.name, src.port, src.protocol, src.backendPort⟩

def convertUpdateCloudProviderConfigTo (src : UpdateCloudProviderConfig) :
    V1Beta1.UpdateCloudProviderConfig where
  manifestsConfigMapNamespace := src.manifestsConfigMapNamespace
  manifestsConfigMapName := src.manifestsConfigMapName
  manifestsConfigMapKey := src.manifestsConfigMapKey
  cloudConfigCredentialsSecretName := src.cloudConfigCredentialsSecretName
  cloudConfigCredentialsSecretKey := src.cloudConfigCredentialsSecretKey

def convertUpdateCloudProviderConfigFrom (src : V1Beta1.UpdateCloudProviderConfig) :
    UpdateCloudProviderConfig where
  manifestsConfigMapNamespace := src.manifestsConfigMapNamespace
  manifestsConfigMapName := src.manifestsConfigMapName
  manifestsConfigMapKey := src.manifestsConfigMapKey
  cloudConfigCredentialsSecretName := src.cloudConfigCredentialsSecretName
  cloudConfigCredentialsSecretKey := src.cloudConfigCredentialsSecretKey

def convertInitializationTo (src : Initialization) : V1Beta1.Initialization :=
  ⟨src.provisioned⟩

def convertInitializationFrom (src : V1Beta1.Initialization) : Initialization :=
  ⟨src.provisioned⟩

def convertFirmwareTo (src : Firmware) : V1Beta1.Firmware :=
  ⟨src.efi, src.secureBoot⟩

def convertFirmwareFrom (src : V1Beta1.Firmware) : Firmware :=
  ⟨src.efi, src.secureBoot⟩

def convertTPMTo (src : TPM) : V1Beta1.TPM :=
  ⟨src.enabled, src.persistent⟩

def convertTPMFrom (src : V1Beta1.TPM) : TPM :=
  ⟨src.enabled, src.persistent⟩

def convertNetworkConfigTo (src : NetworkConfig) : V1Beta1.NetworkConfig :=
  ⟨src.address, src.gateway, src.dnsServers, src.dnsSearch⟩

def convertNetworkConfigFrom (src : V1Beta1.NetworkConfig) : NetworkConfig :=
  ⟨src.address, src.gateway, src.dnsServers, src.dnsSearch⟩

section Specs

variable {K : Core}

def convertVMNetworkConfigTo (src : Option VMNetworkConfig) :
    Option V1Beta1.VMNetworkConfig :=
  src.map fun src =>
    { ipPoolRef := src.ipPoolRef
      ipPoolRefs := src.ipPoolRefs
      ipPool := src.ipPool.map convertIpPoolTo
      gateway := src.gateway
      subnetMask := src.subnetMask
      dnsServers := src.dnsServers
      dnsSearch := src.dnsSearch }

def convertVMNetworkConfigFrom (src : Option V1Beta1.VMNetworkConfig) :
    Option VMNetworkConfig :=
  src.map fun src =>
    { ipPoolRef := src.ipPoolRef
      ipPoolRefs := src.ipPoolRefs
      ipPool := src.ipPool.map convertIpPoolFrom
      gateway := src.gateway
      subnetMask := src.subnetMask
      dnsServers := src.dnsServers
      dnsSearch := src.dnsSearch }

/-- `convertClusterSpecTo`; listeners that are nil stay nil. -/
def convertClusterSpecTo (src : HarvesterClusterSpec K) : V1Beta1.HarvesterClusterSpec K where
  server := src.server
  identitySecret := convertSecretKeyTo src.identitySecret
  controlPlaneEndpoint := src.controlPlaneEndpoint
  targetNamespace := src.targetNamespace
  updateCloudProviderConfig := convertUpdateCloudProviderConfigTo src.updateCloudProviderConfig
  loadBalancerConfig :=
    { ipamType := src.loadBalancerConfig.ipamType
      ipPoolRef := src.loadBalancerConfig.ipPoolRef
      ipPool := convertIpPoolTo src.loadBalancerConfig.ipPool
      description := src.loadBalancerConfig.description
      listeners := src.loadBalancerConfig.listeners.map (List.map convertListenerTo) }
  vmNetworkConfig := convertVMNetworkConfigTo src.vmNetworkConfig

def convertClusterSpecFrom (src : V1Beta1.HarvesterClusterSpec K) : HarvesterClusterSpec K where
  server := src.server
  identitySecret := convertSecretKeyFrom src.identitySecret
  controlPlaneEndpoint := src.controlPlaneEndpoint
  targetNamespace := src.targetNamespace
  updateCloudProviderConfig := convertUpdateCloudProviderConfigFrom src.updateCloudProviderConfig
  loadBalancerConfig :=
    { ipamType := src.loadBalancerConfig.ipamType
      ipPoolRef := src.loadBalancerConfig.ipPoolRef
      ipPool := convertIpPoolFrom src.loadBalancerConfig.ipPool
      description := src.loadBalancerConfig.description
      listeners := src.loadBalancerConfig.listeners.map (List.map convertListenerFrom) }
  vmNetworkConfig := convertVMNetworkConfigFrom src.vmNetworkConfig

def convertVolumeTo (v : Volume K) : V1Beta1.Volume K where
  volumeType := v.volumeType
  imageName := v.imageName
  storageClass := v.storageClass
  volumeSize := v.volumeSize
  bootOrder := v.bootOrder

def convertVolumeFrom (v : V1Beta1.Volume K) : Volume K where
  volumeType := v.volumeType
  imageName := v.imageName
  storageClass := v.storageClass
  volumeSize := v.volumeSize
  bootOrder := v.bootOrder

def convertMachineSpecTo (src : HarvesterMachineSpec K) : V1Beta1.HarvesterMachineSpec K where
  providerID := src.providerID
  failureDomain := src.failureDomain
  cpu := src.cpu
  memory := src.memory
  sshUser := src.sshUser
  sshKeyPair := src.sshKeyPair
  networks := src.networks
  nodeAffinity := src.nodeAffinity
  workloadAffinity := src.workloadAffinity
  volumes := src.volumes.map (List.map convertVolumeTo)
  networkConfig := src.networkConfig.map convertNetworkConfigTo
  vmNetworkConfig := convertVMNetworkConfigTo src.vmNetworkConfig
  firmware := src.firmware.map convertFirmwareTo
  tpm := src.tpm.map convertTPMTo

def convertMachineSpecFrom (src : V1Beta1.HarvesterMachineSpec K) : HarvesterMachineSpec K where
  providerID := src.providerID
  failureDomain := src.failureDomain
  cpu := src.cpu
  memory := src.memory
  sshUser := src.sshUser
  sshKeyPair := src.sshKeyPair
  networks := src.networks
  nodeAffinity := src.nodeAffinity
  workloadAffinity := src.workloadAffinity
  volumes := src.volumes.map (List.map convertVolumeFrom)
  networkConfig := src.networkConfig.map convertNetworkConfigFrom
  vmNetworkConfig := convertVMNetworkConfigFrom src.vmNetworkConfig
  firmware := src.firmware.map convertFirmwareFrom
  tpm := src.tpm.map convertTPMFrom

end Specs

/-- `conversion.Hub`: an object of one of the four v1beta1 kinds. -/
inductive Hub (K : Core) where
  | harvesterCluster (h : V1Beta1.HarvesterCluster K)
  | harvesterMachine (h : V1Beta1.HarvesterMachine K)
  | harvesterClusterTemplate (h : V1Beta1.HarvesterClusterTemplate K)
  | harvesterMachineTemplate (h : V1Beta1.HarvesterMachineTemplate K)

variable {K : Core}

def Hub.typeName : Hub K → String
  | .harvesterCluster _ => "*v1beta1.HarvesterCluster"
  | .harvesterMachine _ => "*v1beta1.HarvesterMachine"
  | .harvesterClusterTemplate _ => "*v1beta1.HarvesterClusterTemplate"
  | .harvesterMachineTemplate _ => "*v1beta1.HarvesterMachineTemplate"

def errUnexpectedHub (obj : Hub K) : String := "unexpected hub type " ++ obj.typeName

/-- `ConvertTo` of a HarvesterCluster: everything but the type is overwritten. -/
def HarvesterCluster.convertTo (src : HarvesterCluster K) (dstRaw : Hub K) :
    Except String (Hub K) :=
  match dstRaw with
  | .harvesterCluster dst => .ok (.harvesterCluster
      { dst with
        objectMeta := src.objectMeta
        spec := convertClusterSpecTo src.spec
        status :=
        { ready := src.status.ready
          conditions := src.status.conditions
          initialization := convertInitializationTo src.status.initialization
          failureDomains := src.status.failureDomains } })
  | _ => .error (errUnexpectedHub dstRaw)

def HarvesterCluster.convertFrom (dst : HarvesterCluster K) (srcRaw : Hub K) :
    Except String (HarvesterCluster K) :=
  match srcRaw with
  | .harvesterCluster src => .ok
      { dst with
        objectMeta := src.objectMeta
        spec := convertClusterSpecFrom src.spec
        status :=
        { ready := src.status.ready
          conditions := src.status.conditions
          initialization := convertInitializationFrom src.status.initialization
          failureDomains := src.status.failureDomains
          failureReason := ""
          failureMessage := "" } }
  | _ => .error (errUnexpectedHub srcRaw)

def HarvesterMachine.convertTo (src : HarvesterMachine K) (dstRaw : Hub K) :
    Except String (Hub K) :=
  match dstRaw with
  | .harvesterMachine dst => .ok (.harvesterMachine
      { dst with
        objectMeta := src.objectMeta
        spec := convertMachineSpecTo src.spec
        status :=
        { ready := src.status.ready
          conditions := src.status.conditions
          addresses := src.status.addresses
          initialization := convertInitializationTo src.status.initialization
          allocatedIPAddress := src.status.allocatedIPAddress
          allocatedPoolRef := src.status.allocatedPoolRef
          failureDomain := src.status.failureDomain } })
  | _ => .error (errUnexpectedHub dstRaw)

def HarvesterMachine.convertFrom (dst : HarvesterMachine K) (srcRaw : Hub K) :
    Except String (HarvesterMachine K) :=
  match srcRaw with
  | .harvesterMachine src => .ok
      { dst with
        objectMeta := src.objectMeta
        spec := convertMachineSpecFrom src.spec
        status :=
        { ready := src.status.ready
          conditions := src.status.conditions
          addresses := src.status.addresses
          initialization := convertInitializationFrom src.status.initialization
          allocatedIPAddress := src.status.allocatedIPAddress
          allocatedPoolRef := src.status.allocatedPoolRef
          failureDomain := src.status.failureDomain
          failureReason := ""
          failureMessage := "" } }
  | _ => .error (errUnexpectedHub srcRaw)

def HarvesterClusterTemplate.convertTo (src : HarvesterClusterTemplate K) (dstRaw : Hub K) :
    Except String (Hub K) :=
  match dstRaw with
  | .harvesterClusterTemplate dst => .ok (.harvesterClusterTemplate
      { dst with
        objectMeta := src.objectMeta
        spec.template.objectMeta := src.spec.template.objectMeta
        spec.template.spec := convertClusterSpecTo src.spec.template.spec })
  | _ => .error (errUnexpectedHub dstRaw)

def HarvesterClusterTemplate.convertFrom (dst : HarvesterClusterTemplate K) (srcRaw : Hub K) :
    Except String (HarvesterClusterTemplate K) :=
  match srcRaw with
  | .harvesterClusterTemplate src => .ok
      { dst with
        objectMeta := src.objectMeta
        spec.template.objectMeta := src.spec.template.objectMeta
        spec.template.spec := convertClusterSpecFrom src.spec.template.spec }
  | _ => .error (errUnexpectedHub srcRaw)

def HarvesterMachineTemplate.convertTo (src : HarvesterMachineTemplate K) (dstRaw : Hub K) :
    Except String (Hub K) :=
  match dstRaw with
  | .harvesterMachineTemplate dst => .ok (.harvesterMachineTemplate
      { dst with
        objectMeta := src.objectMeta
        spec.template.objectMeta := src.spec.template.objectMeta
        spec.template.spec := convertMachineSpecTo src.spec.template.spec })
  | _ => .error (errUnexpectedHub dstRaw)

def HarvesterMachineTemplate.convertFrom (dst : HarvesterMachineTemplate K) (srcRaw : Hub K) :
    Except String (HarvesterMachineTemplate K) :=
  match srcRaw with
  | .harvesterMachineTemplate src => .ok
      { dst with
        objectMeta := src.objectMeta
        spec.template.objectMeta := src.spec.template.objectMeta
        spec.template.spec := convertMachineSpecFrom src.spec.template.spec }
  | _ => .error (errUnexpectedHub srcRaw)

section RoundTrips

theorem convertVMNetworkConfig_to_from (src : Option V1Beta1.VMNetworkConfig) :
    convertVMNetworkConfigTo (convertVMNetworkConfigFrom src) = src := by
  rcases src with - | ⟨ref, refs, - | pool, gateway, mask, servers, search⟩ <;> rfl

theorem convertVMNetworkConfig_from_to (src : Option VMNetworkConfig) :
    convertVMNetworkConfigFrom (convertVMNetworkConfigTo src) = src := by
  rcases src with - | ⟨ref, refs, - | pool, gateway, mask, servers, search⟩ <;> rfl

/-- A slice is copied element by element, nil to nil. -/
theorem map_map_slice {α β : Type} {f : α → β} {g : β → α} (h : ∀ a, g (f a) = a) (s : Slice α) :
    (s.map (List.map f)).map (List.map g) = s := by
  have hgf : g ∘ f = id := funext h
  cases s with
  | none => rfl
  | some xs => simp [hgf]

theorem map_map_option {α β : Type} {f : α → β} {g : β → α} (h : ∀ a, g (f a) = a)
    (o : Option α) : (o.map f).map g = o := by
  cases o with
  | none => rfl
  | some a => simp [h]

theorem convertClusterSpec_to_from (src : V1Beta1.HarvesterClusterSpec K) :
    convertClusterSpecTo (convertClusterSpecFrom src) = src := by
  have hl := map_map_slice (f := convertListenerFrom) (g := convertListenerTo) (fun _ => rfl)
    src.loadBalancerConfig.listeners
  have hn := convertVMNetworkConfig_to_from src.vmNetworkConfig
  simp only [convertClusterSpecTo, convertClusterSpecFrom, hl, hn]
  rfl

theorem convertClusterSpec_from_to (src : HarvesterClusterSpec K) :
    convertClusterSpecFrom (convertClusterSpecTo src) = src := by
  have hl := map_map_slice (f := convertListenerTo) (g := convertListenerFrom) (fun _ => rfl)
    src.loadBalancerConfig.listeners
  have hn := convertVMNetworkConfig_from_to src.vmNetworkConfig
  simp only [convertClusterSpecTo, convertClusterSpecFrom, hl, hn]
  rfl

theorem convertMachineSpec_to_from (src : V1Beta1.HarvesterMachineSpec K) :
    convertMachineSpecTo (convertMachineSpecFrom src) = src := by
  have hv := map_map_slice (f := convertVolumeFrom) (g := convertVolumeTo) (fun _ => rfl)
    src.volumes
  have hc := map_map_option (f := convertNetworkConfigFrom) (g := convertNetworkConfigTo)
    (fun _ => rfl) src.networkConfig
  have hn := convertVMNetworkConfig_to_from src.vmNetworkConfig
  have hf := map_map_option (f := convertFirmwareFrom) (g := convertFirmwareTo) (fun _ => rfl)
    src.firmware
  have ht := map_map_option (f := convertTPMFrom) (g := convertTPMTo) (fun _ => rfl) src.tpm
  simp only [convertMachineSpecTo, convertMachineSpecFrom, hv, hc, hn, hf, ht]

theorem convertMachineSpec_from_to (src : HarvesterMachineSpec K) :
    convertMachineSpecFrom (convertMachineSpecTo src) = src := by
  have hv := map_map_slice (f := convertVolumeTo) (g := convertVolumeFrom) (fun _ => rfl)
    src.volumes
  have hc := map_map_option (f := convertNetworkConfigTo) (g := convertNetworkConfigFrom)
    (fun _ => rfl) src.networkConfig
  have hn := convertVMNetworkConfig_from_to src.vmNetworkConfig
  have hf := map_map_option (f := convertFirmwareTo) (g := convertFirmwareFrom) (fun _ => rfl)
    src.firmware
  have ht := map_map_option (f := convertTPMTo) (g := convertTPMFrom) (fun _ => rfl) src.tpm
  simp only [convertMachineSpecTo, convertMachineSpecFrom, hv, hc, hn, hf, ht]

/-- One of the four kinds, with what "the same object" means in each version: the type of an
object is not part of it. -/
structure Kind (K : Core) where
  Spoke : Type
  HubKind : Type
  hub : HubKind → Hub K
  convertTo : Spoke → Hub K → Except String (Hub K)
  convertFrom : Spoke → Hub K → Except String Spoke
  sameHub : HubKind → HubKind → Prop
  sameSpoke : Spoke → Spoke → Prop

/-- Each version comes back from the other, whatever the objects converted into held before. -/
structure Kind.Lossless (κ : Kind K) : Prop where
  hub : ∀ h s₀ h₀, ∃ s h', κ.convertFrom s₀ (κ.hub h) = .ok s ∧
    κ.convertTo s (κ.hub h₀) = .ok (κ.hub h') ∧ κ.sameHub h h'
  spoke : ∀ s h₀ s₀, ∃ h s', κ.convertTo s (κ.hub h₀) = .ok (κ.hub h) ∧
    κ.convertFrom s₀ (κ.hub h) = .ok s' ∧ κ.sameSpoke s s'

def harvesterClusterKind : Kind K where
  Spoke := HarvesterCluster K
  HubKind := V1Beta1.HarvesterCluster K
  hub := .harvesterCluster
  convertTo := HarvesterCluster.convertTo
  convertFrom := HarvesterCluster.convertFrom
  sameHub h h' := h'.objectMeta = h.objectMeta ∧ h'.spec = h.spec ∧ h'.status = h.status
  sameSpoke s s' := s'.objectMeta = s.objectMeta ∧ s'.spec = s.spec ∧
    s'.status = { s.status with failureReason := "", failureMessage := "" }

def harvesterMachineKind : Kind K where
  Spoke := HarvesterMachine K
  HubKind := V1Beta1.HarvesterMachine K
  hub := .harvesterMachine
  convertTo := HarvesterMachine.convertTo
  convertFrom := HarvesterMachine.convertFrom
  sameHub h h' := h'.objectMeta = h.objectMeta ∧ h'.spec = h.spec ∧ h'.status = h.status
  sameSpoke s s' := s'.objectMeta = s.objectMeta ∧ s'.spec = s.spec ∧
    s'.status = { s.status with failureReason := "", failureMessage := "" }

def harvesterClusterTemplateKind : Kind K where
  Spoke := HarvesterClusterTemplate K
  HubKind := V1Beta1.HarvesterClusterTemplate K
  hub := .harvesterClusterTemplate
  convertTo := HarvesterClusterTemplate.convertTo
  convertFrom := HarvesterClusterTemplate.convertFrom
  sameHub h h' := h'.objectMeta = h.objectMeta ∧ h'.spec = h.spec
  sameSpoke s s' := s'.objectMeta = s.objectMeta ∧ s'.spec = s.spec

def harvesterMachineTemplateKind : Kind K where
  Spoke := HarvesterMachineTemplate K
  HubKind := V1Beta1.HarvesterMachineTemplate K
  hub := .harvesterMachineTemplate
  convertTo := HarvesterMachineTemplate.convertTo
  convertFrom := HarvesterMachineTemplate.convertFrom
  sameHub h h' := h'.objectMeta = h.objectMeta ∧ h'.spec = h.spec
  sameSpoke s s' := s'.objectMeta = s.objectMeta ∧ s'.spec = s.spec

theorem harvesterCluster_lossless : (harvesterClusterKind (K := K)).Lossless where
  hub h _ _ := ⟨_, _, rfl, rfl, rfl, convertClusterSpec_to_from h.spec, rfl⟩
  spoke s _ _ := ⟨_, _, rfl, rfl, rfl, convertClusterSpec_from_to s.spec, rfl⟩

theorem harvesterMachine_lossless : (harvesterMachineKind (K := K)).Lossless where
  hub h _ _ := ⟨_, _, rfl, rfl, rfl, convertMachineSpec_to_from h.spec, rfl⟩
  spoke s _ _ := ⟨_, _, rfl, rfl, rfl, convertMachineSpec_from_to s.spec, rfl⟩

theorem harvesterClusterTemplate_lossless : (harvesterClusterTemplateKind (K := K)).Lossless where
  hub h s₀ h₀ := by
    refine ⟨_, _, rfl, rfl, rfl, ?_⟩
    show (⟨⟨h.spec.template.objectMeta, convertClusterSpecTo
      (convertClusterSpecFrom h.spec.template.spec)⟩⟩ : V1Beta1.HarvesterClusterTemplateSpec K) =
        h.spec
    rw [convertClusterSpec_to_from]
  spoke s h₀ s₀ := by
    refine ⟨_, _, rfl, rfl, rfl, ?_⟩
    show (⟨⟨s.spec.template.objectMeta, convertClusterSpecFrom
      (convertClusterSpecTo s.spec.template.spec)⟩⟩ : HarvesterClusterTemplateSpec K) = s.spec
    rw [convertClusterSpec_from_to]

theorem harvesterMachineTemplate_lossless : (harvesterMachineTemplateKind (K := K)).Lossless where
  hub h s₀ h₀ := by
    refine ⟨_, _, rfl, rfl, rfl, ?_⟩
    show (⟨⟨h.spec.template.objectMeta, convertMachineSpecTo
      (convertMachineSpecFrom h.spec.template.spec)⟩⟩ : V1Beta1.HarvesterMachineTemplateSpec K) =
        h.spec
    rw [convertMachineSpec_to_from]
  spoke s h₀ s₀ := by
    refine ⟨_, _, rfl, rfl, rfl, ?_⟩
    show (⟨⟨s.spec.template.objectMeta, convertMachineSpecFrom
      (convertMachineSpecTo s.spec.template.spec)⟩⟩ : HarvesterMachineTemplateSpec K) = s.spec
    rw [convertMachineSpec_from_to]

/-- The conversion webhook loses nothing but the two deprecated failure fields, for all four
kinds and in both directions. -/
theorem conversion_lossless (K : Core) :
    (harvesterClusterKind (K := K)).Lossless ∧ (harvesterMachineKind (K := K)).Lossless ∧
      (harvesterClusterTemplateKind (K := K)).Lossless ∧
      (harvesterMachineTemplateKind (K := K)).Lossless :=
  ⟨harvesterCluster_lossless, harvesterMachine_lossless, harvesterClusterTemplate_lossless,
    harvesterMachineTemplate_lossless⟩

end RoundTrips

end V1Alpha1

end Caphv
