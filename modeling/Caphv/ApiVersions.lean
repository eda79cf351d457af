import Mathlib.Data.List.Basic
import Mathlib.Data.Option.Basic

namespace Caphv

namespace Api

/-- The types of Kubernetes and Cluster API whose values are only copied. -/
structure Core where
  /-- `metav1.ObjectMeta` without the namespace and the name. -/
  Metadata : Type
  /-- `clusterv1.ObjectMeta`. -/
  TemplateMeta : Type
  Condition : Type
  APIEndpoint : Type
  MachineAddress : Type
  FailureDomain : Type
  NodeAffinity : Type
  PodAffinity : Type
  Quantity : Type

structure TypeMeta where
  kind : String
  apiVersion : String

structure ObjectMeta (K : Core) where
  ns : String
  name : String
  rest : K.Metadata

/-- A Go slice: `none` is nil, which is not the empty slice. -/
abbrev Slice (α : Type) := Option (List α)

def Slice.elems {α : Type} (s : Slice α) : List α := s.getD []

end Api

open Api

namespace V1Beta1

structure SecretKey where
  ns : String
  name : String

structure IpPool where
  vmNetwork : String
  subnet : String
  gateway : String
  rangeStart : String
  rangeEnd : String

structure Listener where
  name : String
  port : Int32
  protocol : String
  backendPort : Int32

structure LoadBalancerConfig where
  ipamType : String
  ipPoolRef : String
  ipPool : IpPool
  listeners : Slice Listener
  description : String

structure UpdateCloudProviderConfig where
  manifestsConfigMapNamespace : String
  manifestsConfigMapName : String
  manifestsConfigMapKey : String
  cloudConfigCredentialsSecretName : String
  cloudConfigCredentialsSecretKey : String

structure VMNetworkConfig where
  ipPoolRef : String
  ipPoolRefs : Slice String
  ipPool : Option IpPool
  gateway : String
  subnetMask : String
  dnsServers : Slice String
  dnsSearch : Slice String

structure Initialization where
  provisioned : Bool

structure HarvesterClusterSpec (K : Core) where
  server : String
  identitySecret : SecretKey
  loadBalancerConfig : LoadBalancerConfig
  controlPlaneEndpoint : K.APIEndpoint
  targetNamespace : String
  updateCloudProviderConfig : UpdateCloudProviderConfig
  vmNetworkConfig : Option VMNetworkConfig

structure HarvesterClusterStatus (K : Core) where
  ready : Bool
  conditions : Slice K.Condition
  initialization : Initialization
  failureDomains : Slice K.FailureDomain

structure HarvesterCluster (K : Core) where
  typeMeta : TypeMeta
  objectMeta : ObjectMeta K
  spec : HarvesterClusterSpec K
  status : HarvesterClusterStatus K

structure HarvesterClusterTemplateResource (K : Core) where
  objectMeta : K.TemplateMeta
  spec : HarvesterClusterSpec K

structure HarvesterClusterTemplateSpec (K : Core) where
  template : HarvesterClusterTemplateResource K

structure HarvesterClusterTemplate (K : Core) where
  typeMeta : TypeMeta
  objectMeta : ObjectMeta K
  spec : HarvesterClusterTemplateSpec K

structure Firmware where
  efi : Bool
  secureBoot : Bool

structure TPM where
  enabled : Bool
  persistent : Bool

structure NetworkConfig where
  address : String
  gateway : String
  dnsServers : Slice String
  dnsSearch : Slice String

structure Volume (K : Core) where
  volumeType : String
  imageName : String
  storageClass : String
  volumeSize : Option K.Quantity
  bootOrder : Int64

structure HarvesterMachineSpec (K : Core) where
  providerID : String
  failureDomain : String
  cpu : UInt32
  memory : String
  sshUser : String
  sshKeyPair : String
  volumes : Slice (Volume K)
  networks : Slice String
  nodeAffinity : Option K.NodeAffinity
  workloadAffinity : Option K.PodAffinity
  networkConfig : Option NetworkConfig
  vmNetworkConfig : Option VMNetworkConfig
  firmware : Option Firmware
  tpm : Option TPM

structure HarvesterMachineStatus (K : Core) where
  ready : Bool
  conditions : Slice K.Condition
  addresses : Slice K.MachineAddress
  initialization : Initialization
  allocatedIPAddress : String
  allocatedPoolRef : String
  failureDomain : String

structure HarvesterMachine (K : Core) where
  typeMeta : TypeMeta
  objectMeta : ObjectMeta K
  spec : HarvesterMachineSpec K
  status : HarvesterMachineStatus K

structure HarvesterMachineTemplateResource (K : Core) where
  objectMeta : K.TemplateMeta
  spec : HarvesterMachineSpec K

structure HarvesterMachineTemplateSpec (K : Core) where
  template : HarvesterMachineTemplateResource K

structure HarvesterMachineTemplate (K : Core) where
  typeMeta : TypeMeta
  objectMeta : ObjectMeta K
  spec : HarvesterMachineTemplateSpec K

def VMNetworkConfig.getIPPoolRefs (v : VMNetworkConfig) : List String :=
  if v.ipPoolRefs.elems ≠ [] then v.ipPoolRefs.elems
  else if v.ipPoolRef ≠ "" then [v.ipPoolRef]
  else []

end V1Beta1

namespace V1Alpha1

structure SecretKey where
  ns : String
  name : String

structure IpPool where
  vmNetwork : String
  subnet : String
  gateway : String
  rangeStart : String
  rangeEnd : String

structure Listener where
  name : String
  port : Int32
  protocol : String
  backendPort : Int32

structure LoadBalancerConfig where
  ipamType : String
  ipPoolRef : String
  ipPool : IpPool
  listeners : Slice Listener
  description : String

structure UpdateCloudProviderConfig where
  manifestsConfigMapNamespace : String
  manifestsConfigMapName : String
  manifestsConfigMapKey : String
  cloudConfigCredentialsSecretName : String
  cloudConfigCredentialsSecretKey : String

structure VMNetworkConfig where
  ipPoolRef : String
  ipPoolRefs : Slice String
  ipPool : Option IpPool
  gateway : String
  subnetMask : String
  dnsServers : Slice String
  dnsSearch : Slice String

structure Initialization where
  provisioned : Bool

structure HarvesterClusterSpec (K : Core) where
  server : String
  identitySecret : SecretKey
  loadBalancerConfig : LoadBalancerConfig
  controlPlaneEndpoint : K.APIEndpoint
  targetNamespace : String
  updateCloudProviderConfig : UpdateCloudProviderConfig
  vmNetworkConfig : Option VMNetworkConfig

structure HarvesterClusterStatus (K : Core) where
  ready : Bool
  failureReason : String
  failureMessage : String
  conditions : Slice K.Condition
  initialization : Initialization
  failureDomains : Slice K.FailureDomain

structure HarvesterCluster (K : Core) where
  typeMeta : TypeMeta
  objectMeta : ObjectMeta K
  spec : HarvesterClusterSpec K
  status : HarvesterClusterStatus K

structure HarvesterClusterTemplateResource (K : Core) where
  objectMeta : K.TemplateMeta
  spec : HarvesterClusterSpec K

structure HarvesterClusterTemplateSpec (K : Core) where
  template : HarvesterClusterTemplateResource K

structure HarvesterClusterTemplate (K : Core) where
  typeMeta : TypeMeta
  objectMeta : ObjectMeta K
  spec : HarvesterClusterTemplateSpec K

structure Firmware where
  efi : Bool
  secureBoot : Bool

structure TPM where
  enabled : Bool
  persistent : Bool

structure NetworkConfig where
  address : String
  gateway : String
  dnsServers : Slice String
  dnsSearch : Slice String

structure Volume (K : Core) where
  volumeType : String
  imageName : String
  storageClass : String
  volumeSize : Option K.Quantity
  bootOrder : Int64

structure HarvesterMachineSpec (K : Core) where
  providerID : String
  failureDomain : String
  cpu : UInt32
  memory : String
  sshUser : String
  sshKeyPair : String
  volumes : Slice (Volume K)
  networks : Slice String
  nodeAffinity : Option K.NodeAffinity
  workloadAffinity : Option K.PodAffinity
  networkConfig : Option NetworkConfig
  vmNetworkConfig : Option VMNetworkConfig
  firmware : Option Firmware
  tpm : Option TPM

structure HarvesterMachineStatus (K : Core) where
  ready : Bool
  conditions : Slice K.Condition
  failureReason : String
  failureMessage : String
  addresses : Slice K.MachineAddress
  initialization : Initialization
  allocatedIPAddress : String
  allocatedPoolRef : String
  failureDomain : String

structure HarvesterMachine (K : Core) where
  typeMeta : TypeMeta
  objectMeta : ObjectMeta K
  spec : HarvesterMachineSpec K
  status : HarvesterMachineStatus K

structure HarvesterMachineTemplateResource (K : Core) where
  objectMeta : K.TemplateMeta
  spec : HarvesterMachineSpec K

structure HarvesterMachineTemplateSpec (K : Core) where
  template : HarvesterMachineTemplateResource K

structure HarvesterMachineTemplate (K : Core) where
  typeMeta : TypeMeta
  objectMeta : ObjectMeta K
  spec : HarvesterMachineTemplateSpec K

def VMNetworkConfig.getIPPoolRefs (v : VMNetworkConfig) : List String :=
  if v.ipPoolRefs.elems ≠ [] then v.ipPoolRefs.elems
  else if v.ipPoolRef ≠ "" then [v.ipPoolRef]
  else []

end V1Alpha1

end Caphv
