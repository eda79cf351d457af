import Caphv.Interleaving
import Caphv.MachineWorld
import Caphv.NodeAffinity

namespace Caphv.Machine

open Net (parseIP)

/-- Code outside the repository that the controller calls as a function. -/
structure Externals where
  allocator : Allocator
  mergeCloudInitData : List String → Except String String
  /-- `resource.ParseQuantity` accepts the text. -/
  parsesQuantity : String → Bool

/-- `Scope`, without the HarvesterMachine, which the pass mutates. -/
structure Scope where
  key : ObjectKey
  cluster : OwnerCluster
  machine : OwnerMachine
  harvesterCluster : HarvesterCluster
  /-- The Harvester client could be built; a call on an unusable one panics. -/
  harvesterClient : Bool

def requeueDelay : ℕ := 10

abbrev Pass (α : Type) := Body Req Resp HarvesterMachine α

def call (r : Req) : Pass (Resp r) := Body.request r

def Scope.harvester (sc : Scope) (r : Req) : Pass (Resp r) :=
  if sc.harvesterClient then Body.request r else Body.panic

def modifyStatus (f : HarvesterMachineStatus → HarvesterMachineStatus) : Pass Unit :=
  Body.modify fun m => { m with status := f m.status }

def setCondition (type : String) (c : Condition) : Pass Unit :=
  modifyStatus fun st => { st with conditions := st.conditions.set type c }

def recordPaused (paused : PausedResult) : Pass Unit :=
  match paused.condition with
  | none => pure ()
  | some c => setCondition "Paused" c

def setNotReady : Pass Unit :=
  modifyStatus fun st => { st with ready := false, provisioned := false }

def setReady (ready : Bool) : Pass Unit := modifyStatus fun st => { st with ready := ready }

def setProvisioned : Pass Unit :=
  modifyStatus fun st => { st with ready := true, provisioned := true }

def formatStrings (xs : List String) : String := "[" ++ String.intercalate " " xs ++ "]"

/-- The entry of the allocation map that the loop over it finds first. -/
def existingAllocation (pool : IPPool) (machineID : String) : Option String :=
  ((Table.ofNil pool.status.allocated).entries.find? fun e => e.2 = machineID).map Sigma.fst

def recordAllocation (ip poolRef : String) : Pass Unit :=
  modifyStatus fun st => { st with allocatedIPAddress := ip, allocatedPoolRef := poolRef }

def allocateFrom (ext : Externals) (sc : Scope) (poolRefs : List String) :
    List String → Option String → ℕ → Pass (Except String Unit)
  | [], lastErr, skippedNetwork => do
    let m ← Body.get
    match lastErr with
    | none =>
      if 0 < skippedNetwork then
        pure (.error ("no IP pool among " ++ formatStrings poolRefs ++
          " matches the machine networks " ++ formatStrings m.spec.networks ++
          " (pools are assigned to other networks)"))
      else pure (.ok ())
    | some e => pure (.error ("all configured IP pools exhausted: " ++ e))
  | poolRef :: rest, lastErr, skippedNetwork => do
    let got ← sc.harvester (.getPool poolRef)
    match got with
    | .error e =>
      allocateFrom ext sc poolRefs rest
        (some ("failed to get VM IP pool " ++ poolRef ++ ": " ++ e.message)) skippedNetwork
    | .ok pool =>
      match existingAllocation pool sc.key.id with
      | some ip => do
        recordAllocation ip poolRef
        pure (.ok ())
      | none => do
        let m ← Body.get
        if !poolMatchesNetworks pool m.spec.networks then
          allocateFrom ext sc poolRefs rest lastErr (skippedNetwork + 1)
        else
          match allocateVMIPFromPool ext.allocator pool sc.key.id with
          | .panic => Body.panic
          | .err e =>
            allocateFrom ext sc poolRefs rest
              (some ("failed to allocate from pool " ++ poolRef ++ ": " ++ e)) skippedNetwork
          | .ok (ip, pool') => do
            let updated ← sc.harvester (.updatePool poolRef pool')
            match updated with
            | .error e => pure (.error ("failed to update VM IP pool " ++ poolRef ++
                " after allocation: " ++ e.message))
            | .ok () => do
              recordAllocation ip poolRef
              pure (.ok ())

def allocateVMIP (ext : Externals) (sc : Scope) : Pass (Except String Unit) := do
  let m ← Body.get
  if m.status.allocatedIPAddress ≠ "" then pure (.ok ())
  else
    match effectiveVMNetworkConfig m sc.harvesterCluster with
    | none => pure (.error
        "VMNetworkConfig is nil on both the HarvesterMachine and the HarvesterCluster")
    | some cfg =>
      if cfg.getIPPoolRefs = [] then
        pure (.error "no IPPool references configured, ensure reconcileVMIPPool has run")
      else allocateFrom ext sc cfg.getIPPoolRefs cfg.getIPPoolRefs none 0

def releasePoolRef (m : HarvesterMachine) (c : HarvesterCluster) : String :=
  if m.status.allocatedPoolRef ≠ "" then m.status.allocatedPoolRef
  else ((effectiveVMNetworkConfig m c).bind fun cfg => cfg.getIPPoolRefs.head?).getD ""

/-- `releaseVMIP`: every error is only logged. -/
def releaseVMIP (sc : Scope) : Pass Unit := do
  let m ← Body.get
  let poolRef := releasePoolRef m sc.harvesterCluster
  if m.status.allocatedIPAddress = "" ∨ poolRef = "" then pure ()
  else do
    let got ← sc.harvester (.getPool poolRef)
    match got with
    | .error _ => pure ()
    | .ok pool =>
      match parseIP m.status.allocatedIPAddress with
      | none => pure ()
      | some ip => do
        let _ ← sc.harvester
          (.updatePool poolRef { pool with status := Store.release pool.status (some ip) })
        pure ()

def getImageByName (sc : Scope) (imageName defaultNamespace : String) :
    Pass (Except String VMImage) :=
  match getNamespacedName imageName defaultNamespace with
  | .error e => pure (.error ("imageName \"" ++ imageName ++
      "\" is malformed, expecting <NAMESPACE>/<NAME> format: " ++ e))
  | .ok ref => do
    let got ← sc.harvester (.listImages ref.ns)
    match got with
    | .error e => pure (.error e.message)
    | .ok images => pure (findImage images ref)

/-- `buildPVCForVolume`; a nil size is dereferenced first. -/
def buildPVCForVolume (sc : Scope) (vol : Volume) (name ns : String) :
    Pass (Except String PVCTemplate) :=
  match vol.volumeSize with
  | none => Body.panic
  | some size =>
    match vol.volumeType with
    | .image => do
      let got ← getImageByName sc vol.imageName ns
      match got with
      | .error e => pure (.error ("unable to find VM image " ++ vol.imageName ++ ": " ++ e))
      | .ok image => pure (.ok
          ⟨name, ns, size, storageClassForImage image, some (image.ns ++ "/" ++ image.name)⟩)
    | .storageClass => pure (.ok ⟨name, ns, size, vol.storageClass, none⟩)

def buildPVCs (sc : Scope) (vmName ns : String) :
    ℕ → List Volume → Pass (Except String (List PVCTemplate))
  | _, [] => pure (.ok [])
  | i, vol :: vols => do
    let diskRandomID ← call .randomID
    let built ← buildPVCForVolume sc vol (pvcName vmName i diskRandomID) ns
    match built with
    | .error e => pure (.error ("unable to build PVC for volume " ++ toString i ++ ": " ++ e))
    | .ok pvc => do
      let rest ← buildPVCs sc vmName ns (i + 1) vols
      pure (rest.map fun pvcs => pvc :: pvcs)

def getCloudInitData (sc : Scope) (dataSecretName : String) : Pass (Except String String) := do
  let n : NamespacedName := ⟨sc.machine.key.ns, dataSecretName⟩
  let got ← call (.getBootstrapSecret n)
  match got with
  | .error e => pure (.error e.message)
  | .ok none => pure (.error ("no userData key found in secret " ++ n.ns ++ "/" ++ n.name))
  | .ok (some userData) => pure (.ok userData)

/-- The end of `buildVMTemplate`: the cloud-init secret is created or updated. A lookup that
fails with an error other than not found is only logged. -/
def ensureCloudInitSecret (sc : Scope) (n : NamespacedName) (data : CloudInitSecret) :
    Pass (Except String Unit) := do
  let got ← sc.harvester (.getSecret n)
  match got with
  | .error e =>
    if e.isNotFound then do
      let created ← sc.harvester (.createSecret n data)
      match created with
      | .error e => pure (.error ("unable to create cloud-init secret: " ++ e.message))
      | .ok () => pure (.ok ())
    else pure (.ok ())
  | .ok _ => do
    let updated ← sc.harvester (.updateSecret n data)
    match updated with
    | .error e => pure (.error ("unable to update cloud-init secret: " ++ e.message))
    | .ok () => pure (.ok ())

/-- The cloud-init data of `buildVMTemplate`: user data merged from four documents, network
data only for a static configuration. -/
def cloudInitSecret (ext : Externals) (sc : Scope) (m : HarvesterMachine)
    (netCfg : Option NetworkConfig) (publicKey userData : String) :
    Except String CloudInitSecret :=
  let cloudInitDHCP :=
    if netCfg = none ∧ m.spec.networks ≠ [] then buildDHCPCloudInit m.spec.networks else ""
  match ext.mergeCloudInitData
      [cloudInitBase, cloudInitSSHSection publicKey, cloudInitDHCP, userData] with
  | .error e => .error ("error during merging cloud init user data from Harvester: " ++ e)
  | .ok merged => .ok
    { userdata := merged
      networkdata := netCfg.bind fun cfg =>
        if m.spec.networks = [] then none
        else some (buildNetworkDataStatic m.spec.networks cfg
          (effectiveVMNetworkConfig m sc.harvesterCluster)) }

/-- `buildVMTemplate`, up to the template itself; `resource.MustParse` panics on a memory
size that is no quantity. -/
def buildVMTemplate (ext : Externals) (sc : Scope) (dataSecretName : String)
    (netCfg : Option NetworkConfig) : Pass (Except String Unit) := do
  let m ← Body.get
  match getNamespacedName m.spec.sshKeyPair sc.harvesterCluster.spec.targetNamespace with
  | .error _ => pure (.error ("SSHKeyPair is HarvesterMachine is Malformed, expecting " ++
      "<NAMESPACE>/<NAME> format or simple DNS name without slash"))
  | .ok keyPair => do
    let got ← sc.harvester (.getKeyPair keyPair)
    match got with
    | .error e =>
      if e.isNotFound then
        pure (.error ("no keypair could be found in namespace " ++ keyPair.ns ++
          ", keypair was only referenced by name " ++ m.spec.sshKeyPair ++
          ", \ntry to specify the namespace using the format <NAMESPACE>/<NAME>"))
      else pure (.error ("error during getting keypair from Harvester: " ++ e.message))
    | .ok publicKey => do
      let data ← getCloudInitData sc dataSecretName
      match data with
      | .error e =>
        pure (.error ("error during getting cloud init user data from Harvester: " ++ e))
      | .ok userData =>
        match cloudInitSecret ext sc m netCfg publicKey userData with
        | .error e => pure (.error e)
        | .ok secret => do
          let ensured ← ensureCloudInitSecret sc
            ⟨sc.harvesterCluster.spec.targetNamespace, cloudInitSecretName sc.key.name⟩ secret
          match ensured with
          | .error e => pure (.error e)
          | .ok () => do
            Body.modify fun m => (buildAffinity sc.key.name sc.machine sc.harvesterCluster m).2
            if ext.parsesQuantity m.spec.memory then pure (.ok ()) else Body.panic

def createVMFromHarvesterMachine (ext : Externals) (sc : Scope) (dataSecretName : String)
    (netCfg : Option NetworkConfig) : Pass (Except String Unit) := do
  let m ← Body.get
  let targetNS := sc.harvesterCluster.spec.targetNamespace
  let pvcs ← buildPVCs sc sc.key.name targetNS 0 m.spec.volumes
  match pvcs with
  | .error e => pure (.error e)
  | .ok disks => do
    let template ← buildVMTemplate ext sc dataSecretName netCfg
    match template with
    | .error e => pure (.error ("unable to build VM definition: " ++ e))
    | .ok () => do
      let created ← sc.harvester (.createVM ⟨targetNS, sc.key.name⟩ disks m.status)
      match created with
      | .error e => pure (.error e.message)
      | .ok () => pure (.ok ())

def initializeWorkloadNode (sc : Scope) : Pass Bool := do
  let m ← Body.get
  if m.spec.providerID = "" then pure false
  else do
    let cfg ← call (.getWorkloadClusterConfig sc.cluster)
    match cfg with
    | .error _ => pure false
    | .ok () => call (.initializeWorkloadNode sc.key.name m.spec.providerID)

/-- The network part of `ReconcileNormal`: the effective configuration, or the error of the
address allocation. -/
def resolveNetworkConfig (ext : Externals) (sc : Scope) :
    Pass (Except String (Option NetworkConfig)) := do
  let m ← Body.get
  match effectiveVMNetworkConfig m sc.harvesterCluster, m.spec.networkConfig with
  | some vmNetCfg, none => do
    let allocated ← allocateVMIP ext sc
    match allocated with
    | .error e => do
      setCondition "VMIPAllocated"
        ⟨.false_, "VMIPAllocationFailed", "Failed to allocate VM IP: " ++ e⟩
      pure (.error e)
    | .ok () => do
      let m ← Body.get
      setCondition "VMIPAllocated" ⟨.true_, "VMIPAllocated",
        "Allocated IP " ++ m.status.allocatedIPAddress ++ " from pool"⟩
      pure (.ok (some
        { address := m.status.allocatedIPAddress
          gateway := vmNetCfg.gateway
          dnsServers := vmNetCfg.dnsServers
          dnsSearch := vmNetCfg.dnsSearch }))
  | _, cfg => pure (.ok cfg)

/-- The id on the workload node, or one made from the VM when it cannot be read. -/
def providerIDFrom (node : Except String String) (vm : VM) : String :=
  match node with
  | .ok id => id
  | .error _ => "harvester://" ++ toString vm.uid

/-- The branch of `ReconcileNormal` for a VM that exists: `some` ends the pass. -/
def reconcileExistingVM (sc : Scope) (n : NamespacedName) (vm : VM) : Pass (Option Outcome) := do
  setCondition "VMProvisioningReady"
    ⟨.true_, "VMProvisioningReady", "VM already exists and is provisioned"⟩
  if !isVMRunning vm.state then do
    setReady false
    pure (some (.after requeueTimeShort, none))
  else do
    let got ← sc.harvester (.getVMI n)
    match got with
    | .error _ => do
      setNotReady
      pure (some (.after 60, none))
    | .ok interfaces => do
      let ipAddresses := interfaces.filter (· ≠ "")
      modifyStatus fun st => { st with addresses := ipAddresses }
      let m ← Body.get
      if ipAddresses = [] ∧ m.status.ready then do
        setNotReady
        pure (some (.after 60, none))
      else if ipAddresses ≠ [] ∧ !m.status.ready then do
        setProvisioned
        setCondition "VMProvisioningReady" ⟨.true_, "VMProvisioningReady", ""⟩
        pure (some (⟨true, 0⟩, none))
      else if m.spec.providerID = "" then do
        let node ← call (.getNodeProviderID sc.key.name)
        if providerIDFrom node vm ≠ "" then do
          Body.modify fun m =>
            { m with spec := { m.spec with providerID := providerIDFrom node vm } }
          setProvisioned
          pure none
        else pure (some (.after 60, none))
      else do
        setCondition "MachineCreated" ⟨.true_, "MachineCreated", ""⟩
        setReady true
        pure none

/-- The patch of the HarvesterCluster status after the first VM was created. -/
def patchInitMachineCreated (sc : Scope) : Pass Unit :=
  let read := sc.harvesterCluster.status.conditions
  if read.isTrue "InitMachineCreated" then pure ()
  else do
    let _ ← call (.patchClusterStatus sc.cluster.infrastructureRef
      (read.set "InitMachineCreated" ⟨.true_, "InitMachineCreated", ""⟩))
    pure ()

def reconcileNewVM (ext : Externals) (sc : Scope) (dataSecretName : String)
    (netCfg : Option NetworkConfig) : Pass (Option Outcome) := do
  setReady false
  setCondition "VMProvisioningReady"
    ⟨.false_, "VMProvisioningInProgress", "VM provisioning in progress"⟩
  let created ← createVMFromHarvesterMachine ext sc dataSecretName netCfg
  match created with
  | .error e => do
    setCondition "VMProvisioningReady"
      ⟨.false_, "VMProvisioningFailed", "Failed to create VM: " ++ e⟩
    pure (some (.empty, some e))
  | .ok () => do
    setCondition "MachineCreated" ⟨.true_, "MachineCreated", ""⟩
    setReady false
    patchInitMachineCreated sc
    pure none

def reconcileCreation (ext : Externals) (sc : Scope) (dataSecretName : String)
    (netCfg : Option NetworkConfig) (vmExists : Bool) : Pass (Option Outcome) := do
  let m ← Body.get
  if !m.status.conditions.isTrue "MachineCreated" then
    reconcileNewVM ext sc dataSecretName netCfg
  else if !vmExists then do
    setReady false
    setCondition "MachineCreated" ⟨.false_, "MachineNotFound", "VM not found in Harvester"⟩
    pure (some (.after 60, none))
  else pure none

def finishNormal (sc : Scope) : Pass Outcome := do
  setReady true
  let initialized ← initializeWorkloadNode sc
  if initialized then pure (.empty, none) else pure (.after requeueDelay, none)

def orElse (branch : Pass (Option Outcome)) (rest : Pass Outcome) : Pass Outcome := do
  let out ← branch
  match out with
  | some out => pure out
  | none => rest

def reconcileInfrastructure (ext : Externals) (sc : Scope) (dataSecretName : String) :
    Pass Outcome := do
  Body.modify fun m =>
    { m with status := { m.status with failureDomain := effectiveFailureDomain sc.machine m } }
  let resolved ← resolveNetworkConfig ext sc
  match resolved with
  | .error e => pure (.after requeueTimeShort, some e)
  | .ok netCfg => do
    let n : NamespacedName := ⟨sc.harvesterCluster.spec.targetNamespace, sc.key.name⟩
    let got ← sc.harvester (.getVM n)
    match got with
    | .error e =>
      if e.isNotFound then
        orElse (reconcileCreation ext sc dataSecretName netCfg false) (finishNormal sc)
      else do
        setNotReady
        pure (.empty, some e.message)
    | .ok vm =>
      orElse (reconcileExistingVM sc n vm)
        (orElse (reconcileCreation ext sc dataSecretName netCfg true) (finishNormal sc))

def migrateFinalizer (finalizers : List String) : List String :=
  removeFinalizer (addFinalizer finalizers machineFinalizer) machineFinalizerLegacy

def reconcileNormal (ext : Externals) (sc : Scope) : Pass Outcome := do
  let m ← Body.get
  if machineFinalizerLegacy ∈ m.finalizers ∧ machineFinalizer ∉ m.finalizers ∧ !m.deleting then do
    Body.modify fun m => { m with finalizers := migrateFinalizer m.finalizers }
    pure (.empty, none)
  else if machineFinalizer ∉ m.finalizers ∧ !m.deleting then do
    Body.modify fun m => { m with finalizers := addFinalizer m.finalizers machineFinalizer }
    setNotReady
    pure (.empty, none)
  else if sc.cluster.infrastructureProvisioned ≠ some true then do
    setNotReady
    setCondition "InfrastructureReady" ⟨.false_, "InfrastructureProvisioningInProgress",
      "Waiting for cluster infrastructure to be ready"⟩
    pure (.after 60, none)
  else do
    setCondition "InfrastructureReady"
      ⟨.true_, "InfrastructureReady", "Cluster infrastructure is ready"⟩
    match sc.machine.dataSecretName with
    | none => do
      setNotReady
      pure (.after 60, none)
    | some dataSecretName => reconcileInfrastructure ext sc dataSecretName

def removeEtcdMemberIfControlPlane (sc : Scope) : Pass Unit := do
  let m ← Body.get
  if !m.controlPlane then pure ()
  else do
    let cfg ← call (.getWorkloadClusterConfig sc.cluster)
    match cfg with
    | .error _ => pure ()
    | .ok () => call (.removeEtcdMember sc.key.name)

/-- The loop of `deletePVCsByPrefix` over the listed claims; an error is only logged. -/
def deletePVCs (sc : Scope) (ns pfx : String) : List String → Pass Unit
  | [] => pure ()
  | name :: names =>
    if !pfx.toList.isPrefixOf name.toList then deletePVCs sc ns pfx names
    else do
      let _ ← sc.harvester (.deletePVC ⟨ns, name⟩)
      deletePVCs sc ns pfx names

def deletePVCsByPrefix (sc : Scope) (ns pfx : String) : Pass Unit := do
  let listed ← sc.harvester (.listPVCs ns)
  match listed with
  | .error _ => pure ()
  | .ok names => deletePVCs sc ns pfx names

def dropFinalizers (finalizers : List String) : List String :=
  removeFinalizer (removeFinalizer finalizers machineFinalizerLegacy) machineFinalizer

/-- The end of `ReconcileDelete`: both finalizers go, and it is an error when the new one
was not there. -/
def removeMachineFinalizers (sc : Scope) : Pass Outcome := do
  let m ← Body.get
  Body.modify fun m => { m with finalizers := dropFinalizers m.finalizers }
  if machineFinalizer ∈ m.finalizers then pure (.empty, none)
  else pure (.empty, some ("unable to remove finalizer " ++ machineFinalizer ++
    " from HarvesterMachine " ++ sc.key.id))

def deleteVMAndDisks (sc : Scope) : Pass Outcome := do
  let targetNS := sc.harvesterCluster.spec.targetNamespace
  let got ← sc.harvester (.getVM ⟨targetNS, sc.key.name⟩)
  match got with
  | .error e =>
    if e.isNotFound then do
      deletePVCsByPrefix sc targetNS (diskPrefix sc.key.name)
      removeMachineFinalizers sc
    else pure (⟨true, 0⟩, some e.message)
  | .ok _ => do
    let deleted ← sc.harvester (.deleteVM ⟨targetNS, sc.key.name⟩)
    match deleted with
    | .error e =>
      if e.isNotFound then pure (.after requeueDelay, none) else pure (⟨true, 0⟩, some e.message)
    | .ok () => pure (.after requeueDelay, none)

def reconcileDelete (sc : Scope) : Pass Outcome := do
  releaseVMIP sc
  removeEtcdMemberIfControlPlane sc
  let deleted ← sc.harvester (.deleteSecret
    ⟨sc.harvesterCluster.spec.targetNamespace, cloudInitSecretName sc.key.name⟩)
  match deleted with
  | .error e =>
    if e.isNotFound then deleteVMAndDisks sc else pure (⟨true, 0⟩, some e.message)
  | .ok () => deleteVMAndDisks sc

/-- `Reconcile` between the creation of the patch helper and the deferred patch. -/
def reconcileBody (ext : Externals) (k : ObjectKey) : Pass Outcome := do
  let owner ← call .getOwnerMachine
  match owner with
  | .error e => pure (.empty, some e.message)
  | .ok none => pure (.after requeueTimeShort, none)
  | .ok (some owner) => do
    let ownerCluster ← call (.getOwnerCluster owner)
    match ownerCluster with
    | .error e => pure (.empty, some e.message)
    | .ok none => pure (.empty, none)
    | .ok (some cluster) => do
      let m ← Body.get
      let paused ← call (.ensurePausedCondition cluster (m.status.conditions.lookup "Paused"))
      if paused.err ≠ none ∨ paused.isPaused ∨ paused.requeue then do
        recordPaused paused
        pure (.empty, paused.err)
      else do
        let got ← call (.getHarvesterCluster cluster.infrastructureRef)
        match got with
        | .error e => pure (.empty, some e.message)
        | .ok hvCluster => do
          let secret ← call (.getIdentitySecret hvCluster.spec.identitySecret)
          match secret with
          | .error e => pure (.empty, some e.message)
          | .ok usable => do
            let m ← Body.get
            let sc : Scope := ⟨k, cluster, owner, hvCluster, usable⟩
            if m.deleting then reconcileDelete sc else reconcileNormal ext sc

def send (r : Req) : Prog Req Resp (Resp r) := Prog.request r

def sendConditions (before after : HarvesterMachine) : Prog Req Resp (Option String) :=
  if Conditions.changed before.status.conditions after.status.conditions = [] then pure none
  else do
    let out ← send (.patchConditions before.status.conditions after.status.conditions)
    pure (errorOf out)

def sendObject (before after : HarvesterMachine) : Prog Req Resp (Option String) :=
  if before.finalizers = after.finalizers ∧ before.spec = after.spec then pure none
  else do
    let out ← send (.patchObject (.between before after))
    pure (errorOf out)

/-- A status patch that finds an object gone with its last finalizer is no error. -/
def sendStatus (before after : HarvesterMachine) : Prog Req Resp (Option String) :=
  if before.status = after.status then pure none
  else do
    let out ← send (.patchStatus (.between before.status after.status))
    match out with
    | .ok () => pure none
    | .error e =>
      if e.isNotFound ∧ after.deleting ∧ after.finalizers = [] then pure none
      else pure (some e.message)

/-- The deferred `patchHelper.Patch`: conditions first, then metadata and spec, then the
status; each part is sent only if something in it changed. -/
def deferredPatch (before after : HarvesterMachine) : Prog Req Resp (Option String) := do
  let e₁ ← sendConditions before after
  let e₂ ← sendObject before after
  let e₃ ← sendStatus before after
  pure (e₁.or (e₂.or e₃))

/-- `Reconcile` of an object that was read: a panic in the body still runs the patch. -/
def reconcileRead (ext : Externals) (k : ObjectKey) (m : HarvesterMachine) :
    Prog Req Resp Outcome := do
  let out ← reconcileBody ext k m
  let patchErr ← deferredPatch m out.2
  match out.1 with
  | some (res, err) => pure (res, err.or patchErr)
  | none => pure (.empty, some "panic")

def reconcile (ext : Externals) (k : ObjectKey) : Prog Req Resp Outcome := do
  let got ← send .getMachine
  match got with
  | .error e => if e.isNotFound then pure (.empty, none) else pure (.empty, some e.message)
  | .ok m => reconcileRead ext k m

end Caphv.Machine
