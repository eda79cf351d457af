import Caphv.Interleaving
import Caphv.NetIPRoundTrip
import Caphv.PoolAccounting
import Caphv.FinalizerSafety
import Caphv.DiskCleanup
import Caphv.ConditionRace
import Caphv.AddressOwnership
import Caphv.AddressIdempotence
import Caphv.AddressRelease
import Caphv.PoolCleanup
import Caphv.AddressReturn
import Caphv.ApiValidation
import Caphv.VMOwnership
import Caphv.CreationGuard
import Caphv.MachineSettled
import Caphv.ClusterReadiness
import Caphv.FailureDomains
import Caphv.AffinitySharing
import Caphv.BootSecret
import Caphv.VMAllocation
import Caphv.LBAllocation
import Caphv.PoolSelection
import Caphv.ManifestSecrets
import Caphv.OneShotConditions
import Caphv.NetworkData
import Caphv.DiskNames
import Caphv.VMTemplate
import Caphv.AdmittedMachines
import Caphv.EtcdMembers
import Caphv.NodeTaints
import Caphv.OwnedMachines
import Caphv.CloudInitMerge
import Caphv.ClusterDeletion
import Caphv.AlignedBlocks
import Caphv.AddressBytes
import Caphv.ResourceNames
import Caphv.Subnets
import Caphv.RangeSpec
import Caphv.RangeCount
import Caphv.ClusterSight
import Caphv.ClusterResources
import Caphv.ClusterWrites
import Caphv.CloudCredentials
import Caphv.CredentialRuns
import Caphv.CredentialProgress
import Caphv.MachineService
import Caphv.MachineRetirement
import Caphv.MachineIdentity
import Caphv.MachinePause
import Caphv.ClusterObservers
import Caphv.ClusterDrafts
import Caphv.Composition
import Caphv.PoolLeases
import Caphv.SharedPools
import Caphv.SharedMaps
import Caphv.ClusterRetirement
