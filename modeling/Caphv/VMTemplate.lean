import Caphv.ApiVersions
import Caphv.MachineController
import Caphv.Splitting

namespace Caphv

namespace Kubevirt

inductive VolumeSource where
  | persistentVolumeClaim (claimName : String)
  | cloudInitNoCloud (userDataSecretRef networkDataSecretRef : String)
  deriving DecidableEq

structure Volume where
  name : String
  source : VolumeSource
  deriving DecidableEq

def Volume.claimName (v : Volume) : Option String :=
  match v.source with
  | .persistentVolumeClaim claimName => some claimName
  | .cloudInitNoCloud _ _ => none

structure Disk where
  name : String
  bus : String
  bootOrder : Option ℕ
  deriving DecidableEq

structure Interface where
  name : String
  model : String
  deriving DecidableEq

structure Network where
  name : String
  networkName : String
  deriving DecidableEq

structure CPU where
  cores : UInt32
  sockets : UInt32
  threads : UInt32
  deriving DecidableEq

/-- `DomainSpec`. The quantities of memory are texts that `resource.MustParse` reads; `efi` and
`tpm` hold the flags `SecureBoot` and `Persistent`. -/
structure DomainSpec where
  cpu : CPU
  interfaces : List Interface
  disks : List Disk
  guestMemory : String
  requestedMemory : String
  memoryLimit : String
  cpuLimit : UInt32
  efi : Option Bool
  smm : Option Bool
  tpm : Option Bool
  deriving DecidableEq

/-- `VirtualMachineInstanceTemplateSpec`. The annotation `harvesterhci.io/diskNames` is given by
the list that it holds as JSON. -/
structure InstanceTemplate where
  diskNames : List String
  sshNames : String
  machineType : String
  labels : Table String String
  hostname : String
  networks : List Network
  volumes : List Volume
  domain : DomainSpec
  affinity : Affinity
  deriving DecidableEq

/-- `VirtualMachine`. The annotation `harvesterhci.io/volumeClaimTemplates` is given by the list
that it holds as JSON. -/
structure VirtualMachine where
  key : NamespacedName
  volumeClaimTemplates : List PVCTemplate
  networkIps : String
  labels : Table String String
  runStrategy : RunStrategy
  template : InstanceTemplate
  deriving DecidableEq

end Kubevirt

namespace Machine

open Kubevirt Splitting

/-- The part of the spec that only the template reads. -/
structure Hardware where
  cpu : UInt32
  firmware : Option V1Beta1.Firmware
  tpm : Option V1Beta1.TPM

structure DiskInfo where
  pvcName : String
  index : ℕ
  deriving DecidableEq

def cpVMLabelKey : String := "harvestercluster/machinetype"

def cpVMLabelValue (sc : Scope) : String := "controlplane-" ++ sc.cluster.key.name

def diskName (i : ℕ) : String := "disk-" ++ toString i

def nicName (i : ℕ) : String := "nic-" ++ toString (i + 1)

def bootOrder (volumes : List Caphv.Volume) (i : ℕ) : Option ℕ :=
  (volumes[i]?).bind fun vol => if 0 < vol.bootOrder then some vol.bootOrder.toNat else none

/-- The volumes of the template: a claim for each disk, and the cloud-init data last. -/
def buildVolumes (machineName : String) (disks : List DiskInfo) : List Kubevirt.Volume :=
  disks.map (fun d => ⟨diskName d.index, .persistentVolumeClaim d.pvcName⟩) ++
    [⟨"cloudinitdisk", .cloudInitNoCloud (cloudInitSecretName machineName)
      (cloudInitSecretName machineName)⟩]

def buildDisks (volumes : List Caphv.Volume) (disks : List DiskInfo) : List Disk :=
  disks.map (fun d => ⟨diskName d.index, "virtio", bootOrder volumes d.index⟩) ++
    [⟨"cloudinitdisk", "virtio", none⟩]

def buildNetworkInterfaces (networks : List String) : List Interface :=
  (List.range networks.length).map fun i => ⟨nicName i, "virtio"⟩

def getKubevirtNetworksFromHarvesterMachine (networks : List String) : List Network :=
  networks.mapIdx fun i network => ⟨nicName i, network⟩

def applyFirmwareAndTPM (hw : Hardware) (domain : DomainSpec) : DomainSpec :=
  let domain :=
    match hw.firmware with
    | none => domain
    | some firmware =>
      if firmware.efi then
        { domain with
          efi := some firmware.secureBoot
          smm := if firmware.secureBoot then some true else domain.smm }
      else domain
  match hw.tpm with
  | none => domain
  | some tpm => if tpm.enabled then { domain with tpm := some tpm.persistent } else domain

def vmLabels (sc : Scope) (m : HarvesterMachine) : Table String String :=
  let labels := (∅ : Table String String).insert "harvesterhci.io/creator" "harvester"
  let labels := if m.controlPlane then labels.insert cpVMLabelKey (cpVMLabelValue sc) else labels
  (labels.insert "harvesterhci.io/vmName" sc.key.name).insert "harvesterhci.io/vmNamePrefix"
    sc.key.name

def vmTemplate (sc : Scope) (hw : Hardware) (m : HarvesterMachine) (sshKey : String)
    (disks : List DiskInfo) : InstanceTemplate where
  diskNames := disks.map DiskInfo.pvcName
  sshNames := "[\"" ++ sshKey ++ "\"]"
  machineType := cpVMLabelValue sc
  labels := vmLabels sc m
  hostname := sc.key.name
  networks := getKubevirtNetworksFromHarvesterMachine m.spec.networks
  volumes := buildVolumes sc.key.name disks
  domain := applyFirmwareAndTPM hw
    { cpu := ⟨hw.cpu, 1, 1⟩
      interfaces := buildNetworkInterfaces m.spec.networks
      disks := buildDisks m.spec.volumes disks
      guestMemory := m.spec.memory
      requestedMemory := m.spec.memory
      memoryLimit := m.spec.memory
      cpuLimit := hw.cpu
      efi := none
      smm := none
      tpm := none }
  affinity := (buildAffinity sc.key.name sc.machine sc.harvesterCluster m).1

/-- The loop of `createVMFromHarvesterMachine` over the volumes, with both of its lists. -/
def buildDiskInfos (sc : Scope) (vmName ns : String) :
    ℕ → List Caphv.Volume → Pass (Except String (List PVCTemplate × List DiskInfo))
  | _, [] => pure (.ok ([], []))
  | i, vol :: vols => do
    let diskRandomID ← call .randomID
    let built ← buildPVCForVolume sc vol (pvcName vmName i diskRandomID) ns
    match built with
    | .error e => pure (.error ("unable to build PVC for volume " ++ toString i ++ ": " ++ e))
    | .ok pvc => do
      let rest ← buildDiskInfos sc vmName ns (i + 1) vols
      pure (rest.map fun lists =>
        (pvc :: lists.1, ⟨pvcName vmName i diskRandomID, i⟩ :: lists.2))

def sshKeyName (sc : Scope) (m : HarvesterMachine) : String :=
  match getNamespacedName m.spec.sshKeyPair sc.harvesterCluster.spec.targetNamespace with
  | .error _ => ""
  | .ok keyPair => keyPair.name

/-- `createVMFromHarvesterMachine` before the Create: the VM that it sends. -/
def defineVM (ext : Externals) (sc : Scope) (hw : Hardware) (dataSecretName : String)
    (netCfg : Option NetworkConfig) : Pass (Except String VirtualMachine) := do
  let m ← Body.get
  let targetNS := sc.harvesterCluster.spec.targetNamespace
  let lists ← buildDiskInfos sc sc.key.name targetNS 0 m.spec.volumes
  match lists with
  | .error e => pure (.error e)
  | .ok (pvcs, disks) => do
    let template ← buildVMTemplate ext sc dataSecretName netCfg
    match template with
    | .error e => pure (.error ("unable to build VM definition: " ++ e))
    | .ok () => pure (.ok
        { key := ⟨targetNS, sc.key.name⟩
          volumeClaimTemplates := pvcs
          networkIps := "[]"
          labels := vmLabels sc m
          runStrategy := .always
          template := vmTemplate sc hw m (sshKeyName sc m) disks })

def sendVM (sc : Scope) (status : HarvesterMachineStatus) (vm : VirtualMachine) :
    Pass (Except String Unit) := do
  let created ← sc.harvester (.createVM vm.key vm.volumeClaimTemplates status)
  match created with
  | .error e => pure (.error e.message)
  | .ok () => pure (.ok ())

theorem buildPVCs_eq (sc : Scope) (vmName ns : String) (i : ℕ) (vols : List Caphv.Volume) :
    buildPVCs sc vmName ns i vols =
      Except.map Prod.fst <$> buildDiskInfos sc vmName ns i vols := by
  -- Both loops draw the same ids and stop at the same volume.
  induction vols generalizing i with
  | nil => rfl
  | cons vol vols ih =>
    unfold buildPVCs buildDiskInfos
    rw [map_bind]
    refine bind_congr fun diskRandomID => ?_
    rw [map_bind]
    refine bind_congr fun built => ?_
    cases built with
    | error e => rfl
    | ok pvc =>
      dsimp only
      rw [ih (i + 1)]
      simp only [map_bind, bind_map_left, map_pure]
      refine bind_congr fun rest => ?_
      cases rest with
      | error e => rfl
      | ok lists => rfl

/-- `createVMFromHarvesterMachine` defines a VM and sends it. -/
theorem createVMFromHarvesterMachine_eq (ext : Externals) (sc : Scope) (hw : Hardware)
    (dataSecretName : String) (netCfg : Option NetworkConfig) :
    createVMFromHarvesterMachine ext sc dataSecretName netCfg = (do
      let m ← Body.get
      let defined ← defineVM ext sc hw dataSecretName netCfg
      match defined with
      | .error e => pure (.error e)
      | .ok vm => sendVM sc m.status vm) := by
  unfold createVMFromHarvesterMachine defineVM
  funext m
  simp only [Body.get_bind_apply, bind_assoc, buildPVCs_eq, bind_map_left]
  refine congrFun (bind_congr fun lists => ?_) m
  cases lists with
  | error e => rfl
  | ok lists =>
    simp only [Except.map, bind_assoc]
    refine bind_congr fun template => ?_
    cases template with
    | error e => rfl
    | ok u =>
      cases u
      refine bind_congr fun created => ?_
      cases created with
      | error e => rfl
      | ok u => rfl

/-- The names in the definition of a VM fit together and follow the spec of its machine. -/
structure Consistent (spec : HarvesterMachineSpec) (vm : VirtualMachine) : Prop where
  interfaces : vm.template.domain.interfaces.map Interface.name =
    vm.template.networks.map Network.name
  networks : (vm.template.networks.map Network.name).Nodup
  networkNames : vm.template.networks.map Network.networkName = spec.networks
  disks : vm.template.domain.disks.map Disk.name =
    vm.template.volumes.map Kubevirt.Volume.name
  volumes : (vm.template.volumes.map Kubevirt.Volume.name).Nodup
  volumeNames : vm.template.volumes.map Kubevirt.Volume.name =
    (List.range spec.volumes.length).map diskName ++ ["cloudinitdisk"]
  claims : vm.template.volumes.map Kubevirt.Volume.claimName =
    vm.template.diskNames.map some ++ [none]
  claimTemplates : vm.volumeClaimTemplates.map PVCTemplate.name = vm.template.diskNames
  diskNames : vm.template.diskNames.Nodup
  bootOrder : ∀ (i : ℕ) (vol : Caphv.Volume), spec.volumes[i]? = some vol →
    (vm.template.domain.disks[i]?).map Disk.bootOrder =
      some (if 0 < vol.bootOrder then some vol.bootOrder.toNat else none)

section Consistency

variable {sc : Scope} {hw : Hardware} {m : HarvesterMachine} {vmName ns sshKey : String}
  {disks : List DiskInfo}

theorem pvcName_index {i j : ℕ} {r s : String} (h : pvcName vmName i r = pvcName vmName j s) :
    i = j := by
  -- The index ends at the first dash after the common start, since no number contains one. The
  -- random ids can then be anything, even the same.
  have hlist := congrArg String.toList h
  simp only [pvcName, String.append_assoc, String.toList_append, List.append_cancel_left_eq]
    at hlist
  have hdigits := (append_mark_inj (notMem_toString (by decide) i) (notMem_toString (by decide) j)
    hlist).1
  exact toString_inj (String.toList_inj.mp hdigits)

theorem diskName_injective : Function.Injective diskName := by
  intro i j h
  exact toString_inj ((String.append_right_inj _).mp h)

theorem nicName_injective : Function.Injective nicName := by
  intro i j h
  exact Nat.succ.inj (toString_inj ((String.append_right_inj _).mp h))

structure Numbered (vmName : String) (i n : ℕ) (disks : List DiskInfo) : Prop where
  index : disks.map DiskInfo.index = List.range' i n
  name : ∀ d ∈ disks, ∃ randomID, d.pvcName = pvcName vmName d.index randomID

theorem Numbered.nodup {i n : ℕ} (h : Numbered vmName i n disks) :
    (disks.map DiskInfo.pvcName).Nodup := by
  have hindex : (disks.map DiskInfo.index).Nodup := by
    rw [h.index]
    exact List.nodup_range'
  rw [List.Nodup, List.pairwise_map] at hindex ⊢
  refine hindex.imp_of_mem fun {a b} ha hb hne heq => hne ?_
  obtain ⟨r, hr⟩ := h.name a ha
  obtain ⟨s, hs⟩ := h.name b hb
  rw [hr, hs] at heq
  exact pvcName_index heq

theorem always_buildPVCForVolume (sc : Scope) (vol : Caphv.Volume) (name ns : String) :
    Body.Always (buildPVCForVolume sc vol name ns) m fun out _ =>
      ∀ pvc, out = some (.ok pvc) → pvc.name = name := by
  unfold buildPVCForVolume
  split
  · intro pvc h
    cases h
  · split
    · refine (Body.always_trivial _ _).bind (fun _ got _ _ => ?_) fun _ _ _ pvc h => by cases h
      cases got with
      | error e =>
        intro pvc h
        cases h
      | ok image =>
        intro pvc h
        cases h
        rfl
    · intro pvc h
      cases h
      rfl

/-- The two lists of the loop name the same claims, numbered from the start of the loop. -/
theorem always_buildDiskInfos (sc : Scope) (vmName ns : String) (i : ℕ)
    (vols : List Caphv.Volume) :
    Body.Always (buildDiskInfos sc vmName ns i vols) m fun out _ =>
      ∀ pvcs disks, out = some (.ok (pvcs, disks)) →
        pvcs.map PVCTemplate.name = disks.map DiskInfo.pvcName ∧
          Numbered vmName i vols.length disks := by
  -- The index of the loop moves with the volumes, so it is generalised.
  induction vols generalizing i m with
  | nil =>
    intro pvcs disks h
    cases h
    exact ⟨rfl, rfl, nofun⟩
  | cons vol vols ih =>
    unfold buildDiskInfos
    refine .request_bind trivial fun diskRandomID => ?_
    refine (always_buildPVCForVolume sc vol _ ns).bind (fun _ built _ hbuilt => ?_)
      fun _ _ _ pvcs disks h => by cases h
    cases built with
    | error e =>
      intro pvcs disks h
      cases h
    | ok pvc =>
      refine (ih (i + 1)).bind (fun _ rest _ hrest => ?_) fun _ _ _ pvcs disks h => by cases h
      cases rest with
      | error e =>
        intro pvcs disks h
        cases h
      | ok lists =>
        intro pvcs disks h
        cases h
        obtain ⟨hnames, hnum⟩ := hrest lists.1 lists.2 rfl
        refine ⟨?_, ?_, ?_⟩
        · rw [List.map_cons, List.map_cons, hnames, hbuilt pvc rfl]
        · rw [List.map_cons, hnum.index]
          rfl
        · intro d hd
          rcases List.mem_cons.mp hd with rfl | hd
          · exact ⟨diskRandomID, rfl⟩
          · exact hnum.name d hd

theorem interfaces_applyFirmwareAndTPM (hw : Hardware) (domain : DomainSpec) :
    (applyFirmwareAndTPM hw domain).interfaces = domain.interfaces := by
  unfold applyFirmwareAndTPM
  grind

theorem disks_applyFirmwareAndTPM (hw : Hardware) (domain : DomainSpec) :
    (applyFirmwareAndTPM hw domain).disks = domain.disks := by
  unfold applyFirmwareAndTPM
  grind

theorem map_name_interfaces (networks : List String) :
    (buildNetworkInterfaces networks).map Interface.name =
      (List.range networks.length).map nicName := by
  rw [buildNetworkInterfaces, List.map_map]
  rfl

theorem map_name_networks (networks : List String) :
    (getKubevirtNetworksFromHarvesterMachine networks).map Network.name =
      (List.range networks.length).map nicName := by
  refine List.ext_getElem (by simp [getKubevirtNetworksFromHarvesterMachine]) fun i _ _ => ?_
  simp [getKubevirtNetworksFromHarvesterMachine]

theorem map_networkName_networks (networks : List String) :
    (getKubevirtNetworksFromHarvesterMachine networks).map Network.networkName = networks := by
  refine List.ext_getElem (by simp [getKubevirtNetworksFromHarvesterMachine]) fun i _ _ => ?_
  simp [getKubevirtNetworksFromHarvesterMachine]

section Numbered

variable {n : ℕ} (h : Numbered vmName 0 n disks)

include h

theorem Numbered.map_index {α : Type} (f : ℕ → α) :
    disks.map (fun d => f d.index) = (List.range n).map f := by
  rw [List.range_eq_range', ← h.index, List.map_map]
  rfl

theorem Numbered.map_name_volumes (machineName : String) :
    (buildVolumes machineName disks).map Kubevirt.Volume.name =
      (List.range n).map diskName ++ ["cloudinitdisk"] := by
  rw [← h.map_index, buildVolumes, List.map_append, List.map_map]
  rfl

theorem Numbered.map_name_disks (volumes : List Caphv.Volume) :
    (buildDisks volumes disks).map Disk.name =
      (List.range n).map diskName ++ ["cloudinitdisk"] := by
  rw [← h.map_index, buildDisks, List.map_append, List.map_map]
  rfl

theorem Numbered.map_bootOrder_disks (volumes : List Caphv.Volume) :
    (buildDisks volumes disks).map Disk.bootOrder =
      (List.range n).map (bootOrder volumes) ++ [none] := by
  rw [← h.map_index, buildDisks, List.map_append, List.map_map]
  rfl

end Numbered

theorem map_claimName_volumes (machineName : String) (disks : List DiskInfo) :
    (buildVolumes machineName disks).map Kubevirt.Volume.claimName =
      (disks.map DiskInfo.pvcName).map some ++ [none] := by
  rw [buildVolumes, List.map_append, List.map_map, List.map_map]
  rfl

theorem nodup_volumeNames (n : ℕ) :
    ((List.range n).map diskName ++ ["cloudinitdisk"]).Nodup := by
  rw [← List.concat_eq_append, List.nodup_concat]
  refine ⟨?_, List.nodup_range.map diskName_injective⟩
  -- The name of a volume's disk starts with `d`, that of the cloud-init disk with `c`.
  intro h
  obtain ⟨i, -, hi⟩ := List.mem_map.mp h
  simpa [diskName] using congrArg String.toList hi

theorem consistent_of_numbered {pvcs : List PVCTemplate} {vm : VirtualMachine}
    (hnames : pvcs.map PVCTemplate.name = disks.map DiskInfo.pvcName)
    (hnum : Numbered sc.key.name 0 m.spec.volumes.length disks)
    (hclaims : vm.volumeClaimTemplates = pvcs)
    (htemplate : vm.template = vmTemplate sc hw m sshKey disks) : Consistent m.spec vm := by
  have hdisks : vm.template.domain.disks = buildDisks m.spec.volumes disks := by
    rw [htemplate]
    exact disks_applyFirmwareAndTPM _ _
  have hinterfaces : vm.template.domain.interfaces = buildNetworkInterfaces m.spec.networks := by
    rw [htemplate]
    exact interfaces_applyFirmwareAndTPM _ _
  have hvolumes : vm.template.volumes = buildVolumes sc.key.name disks := by rw [htemplate]; rfl
  have hnetworks : vm.template.networks =
      getKubevirtNetworksFromHarvesterMachine m.spec.networks := by
    rw [htemplate]
    rfl
  have hdiskNames : vm.template.diskNames = disks.map DiskInfo.pvcName := by rw [htemplate]; rfl
  constructor
  case interfaces => rw [hinterfaces, hnetworks, map_name_interfaces, map_name_networks]
  case networks =>
    rw [hnetworks, map_name_networks]
    exact List.nodup_range.map nicName_injective
  case networkNames => rw [hnetworks, map_networkName_networks]
  case disks => rw [hdisks, hvolumes, hnum.map_name_disks, hnum.map_name_volumes]
  case volumes =>
    rw [hvolumes, hnum.map_name_volumes]
    exact nodup_volumeNames _
  case volumeNames => rw [hvolumes, hnum.map_name_volumes]
  case claims => rw [hvolumes, hdiskNames, map_claimName_volumes]
  case claimTemplates => rw [hclaims, hnames, hdiskNames]
  case diskNames =>
    rw [hdiskNames]
    exact hnum.nodup
  case bootOrder =>
    intro i vol hvol
    -- The disk of volume `i` is the `i`-th; the cloud-init disk comes after all of them.
    have hi : i < m.spec.volumes.length := (List.getElem?_eq_some_iff.mp hvol).1
    rw [hdisks, ← List.getElem?_map, hnum.map_bootOrder_disks,
      List.getElem?_append_left (by simpa using hi), List.getElem?_map, List.getElem?_range hi]
    simp [Machine.bootOrder, hvol]

theorem always_defineVM (ext : Externals) (sc : Scope) (hw : Hardware) (dataSecretName : String)
    (netCfg : Option NetworkConfig) (m : HarvesterMachine) :
    Body.Always (defineVM ext sc hw dataSecretName netCfg) m fun out _ =>
      ∀ vm, out = some (.ok vm) → Consistent m.spec vm := by
  unfold defineVM
  refine .get_bind ?_
  refine (always_buildDiskInfos sc sc.key.name _ 0 m.spec.volumes).bind
    (fun _ lists _ hlists => ?_) fun _ _ _ vm h => by cases h
  cases lists with
  | error e =>
    intro vm h
    cases h
  | ok lists =>
    obtain ⟨hnames, hnum⟩ := hlists lists.1 lists.2 rfl
    refine (Body.always_trivial _ _).bind (fun _ template _ _ => ?_) fun _ _ _ vm h => by cases h
    cases template with
    | error e =>
      intro vm h
      cases h
    | ok u =>
      intro vm h
      cases h
      exact consistent_of_numbered hnames hnum rfl rfl

end Consistency

/-- `createVMFromHarvesterMachine` sends the VM that it defines, and whatever the responses and the
random ids, the names in that VM fit together. -/
theorem created_vm_consistent (ext : Externals) (sc : Scope) (hw : Hardware)
    (dataSecretName : String) (netCfg : Option NetworkConfig) (m : HarvesterMachine) :
    createVMFromHarvesterMachine ext sc dataSecretName netCfg = (do
      let m ← Body.get
      let defined ← defineVM ext sc hw dataSecretName netCfg
      match defined with
      | .error e => pure (.error e)
      | .ok vm => sendVM sc m.status vm) ∧
    Body.Always (defineVM ext sc hw dataSecretName netCfg) m fun out _ =>
      ∀ vm, out = some (.ok vm) → Consistent m.spec vm :=
  ⟨createVMFromHarvesterMachine_eq ext sc hw dataSecretName netCfg,
    always_defineVM ext sc hw dataSecretName netCfg m⟩

end Machine

end Caphv
