import Caphv.ControllerRuntime
import Caphv.PoolAllocation
import Caphv.VMDefinition

namespace Caphv.Machine

/-- A VM in Harvester. `creator` and `allocation` record, for the proofs only, which machine
created it and the pool and address in that machine's status at the time. -/
structure VM where
  uid : ℕ
  state : VMRunState
  disks : List PVCTemplate
  deleting : Bool
  creator : ObjectKey
  allocation : Option (String × String)
  deriving DecidableEq

/-- A cloud-init secret in Harvester, with the machine that created it. -/
structure StoredSecret where
  data : CloudInitSecret
  creator : ObjectKey
  deriving DecidableEq

/-- The objects that the machine controller reads and writes: HarvesterMachines and
HarvesterClusters in the management cluster, the rest in Harvester. A claim is stored with
the machine it was created for. -/
structure World where
  machines : Table ObjectKey HarvesterMachine
  clusters : Table ObjectKey HarvesterCluster
  pools : Table String IPPool
  vms : Table NamespacedName VM
  secrets : Table NamespacedName StoredSecret
  pvcs : Table NamespacedName ObjectKey
  nextUID : ℕ
  deriving DecidableEq

structure ObjectPatch where
  finalizers : Option (List String)
  providerID : Option String
  requiredTerms : Option (List NodeSelectorTerm)
  deriving DecidableEq

structure StatusPatch where
  ready : Option Bool
  addresses : Option (List String)
  provisioned : Option Bool
  allocatedIPAddress : Option String
  allocatedPoolRef : Option String
  failureDomain : Option String
  deriving DecidableEq

def ObjectPatch.between (before after : HarvesterMachine) : ObjectPatch where
  finalizers := changedTo before.finalizers after.finalizers
  providerID := changedTo before.spec.providerID after.spec.providerID
  requiredTerms := (changedTo before.spec.requiredTerms after.spec.requiredTerms).join

def StatusPatch.between (before after : HarvesterMachineStatus) : StatusPatch where
  ready := changedTo before.ready after.ready
  addresses := changedTo before.addresses after.addresses
  provisioned := changedTo before.provisioned after.provisioned
  allocatedIPAddress := changedTo before.allocatedIPAddress after.allocatedIPAddress
  allocatedPoolRef := changedTo before.allocatedPoolRef after.allocatedPoolRef
  failureDomain := changedTo before.failureDomain after.failureDomain

def ObjectPatch.apply (p : ObjectPatch) (m : HarvesterMachine) : HarvesterMachine :=
  { m with
    finalizers := p.finalizers.getD m.finalizers
    spec := { m.spec with providerID := p.providerID.getD m.spec.providerID }.setRequiredTerms
      p.requiredTerms }

def StatusPatch.apply (p : StatusPatch) (st : HarvesterMachineStatus) : HarvesterMachineStatus :=
  { st with
    ready := p.ready.getD st.ready
    addresses := p.addresses.getD st.addresses
    provisioned := p.provisioned.getD st.provisioned
    allocatedIPAddress := p.allocatedIPAddress.getD st.allocatedIPAddress
    allocatedPoolRef := p.allocatedPoolRef.getD st.allocatedPoolRef
    failureDomain := p.failureDomain.getD st.failureDomain }

/-- The calls of one pass. Requests without an argument are about the HarvesterMachine that
is reconciled. -/
inductive Req where
  | getMachine
  | getOwnerMachine
  | getOwnerCluster (owner : OwnerMachine)
  | ensurePausedCondition (cluster : OwnerCluster) (recorded : Option Condition)
  | getHarvesterCluster (k : ObjectKey)
  | getIdentitySecret (n : NamespacedName)
  | getBootstrapSecret (n : NamespacedName)
  | getWorkloadClusterConfig (cluster : OwnerCluster)
  | getNodeProviderID (name : String)
  | initializeWorkloadNode (name providerID : String)
  | removeEtcdMember (name : String)
  | patchClusterStatus (k : ObjectKey) (conditions : Conditions)
  | patchConditions (before after : Conditions)
  | patchObject (p : ObjectPatch)
  | patchStatus (p : StatusPatch)
  | randomID
  | getPool (name : String)
  | updatePool (name : String) (pool : IPPool)
  | getVM (n : NamespacedName)
  | createVM (n : NamespacedName) (disks : List PVCTemplate) (status : HarvesterMachineStatus)
  | deleteVM (n : NamespacedName)
  | getVMI (n : NamespacedName)
  | listImages (ns : String)
  | getKeyPair (n : NamespacedName)
  | getSecret (n : NamespacedName)
  | createSecret (n : NamespacedName) (data : CloudInitSecret)
  | updateSecret (n : NamespacedName) (data : CloudInitSecret)
  | deleteSecret (n : NamespacedName)
  | listPVCs (ns : String)
  | deletePVC (n : NamespacedName)
  deriving DecidableEq

/-- The response to each request. `getIdentitySecret` says whether the kubeconfig in the
secret makes a usable Harvester client; `getBootstrapSecret` gives the `value` key. -/
def Resp : Req → Type
  | .getMachine => Except ApiError HarvesterMachine
  | .getOwnerMachine => Except ApiError (Option OwnerMachine)
  | .getOwnerCluster _ => Except ApiError (Option OwnerCluster)
  | .ensurePausedCondition _ _ => PausedResult
  | .getHarvesterCluster _ => Except ApiError HarvesterCluster
  | .getIdentitySecret _ => Except ApiError Bool
  | .getBootstrapSecret _ => Except ApiError (Option String)
  | .getWorkloadClusterConfig _ => Except String Unit
  | .getNodeProviderID _ => Except String String
  | .initializeWorkloadNode _ _ => Bool
  | .removeEtcdMember _ => Unit
  | .patchClusterStatus _ _ => Except ApiError Unit
  | .patchConditions _ _ => Except ApiError Unit
  | .patchObject _ => Except ApiError Unit
  | .patchStatus _ => Except ApiError Unit
  | .randomID => String
  | .getPool _ => Except ApiError IPPool
  | .updatePool _ _ => Except ApiError Unit
  | .getVM _ => Except ApiError VM
  | .createVM _ _ _ => Except ApiError Unit
  | .deleteVM _ => Except ApiError Unit
  | .getVMI _ => Except ApiError (List String)
  | .listImages _ => Except ApiError (List VMImage)
  | .getKeyPair _ => Except ApiError String
  | .getSecret _ => Except ApiError CloudInitSecret
  | .createSecret _ _ => Except ApiError Unit
  | .updateSecret _ _ => Except ApiError Unit
  | .deleteSecret _ => Except ApiError Unit
  | .listPVCs _ => Except ApiError (List String)
  | .deletePVC _ => Except ApiError Unit

/-- What the environment chooses about a request: a fault for the objects of the world, the
whole response for what is kept elsewhere. -/
def Answer : Req → Type
  | .getOwnerMachine => Resp .getOwnerMachine
  | .getOwnerCluster o => Resp (.getOwnerCluster o)
  | .ensurePausedCondition _ _ => PausedAnswer
  | .getIdentitySecret n => Resp (.getIdentitySecret n)
  | .getBootstrapSecret n => Resp (.getBootstrapSecret n)
  | .getWorkloadClusterConfig c => Resp (.getWorkloadClusterConfig c)
  | .getNodeProviderID n => Resp (.getNodeProviderID n)
  | .initializeWorkloadNode n p => Resp (.initializeWorkloadNode n p)
  | .removeEtcdMember n => Resp (.removeEtcdMember n)
  | .randomID => Resp .randomID
  | .getVMI n => Resp (.getVMI n)
  | .listImages ns => Resp (.listImages ns)
  | .getKeyPair n => Resp (.getKeyPair n)
  | _ => Fault

namespace World

variable (w : World)

def setMachine (k : ObjectKey) (m : HarvesterMachine) : World :=
  { w with machines := w.machines.insert k m }

def setCluster (k : ObjectKey) (c : HarvesterCluster) : World :=
  { w with clusters := w.clusters.insert k c }

def setPool (name : String) (pool : IPPool) : World :=
  { w with pools := w.pools.insert name pool }

def setVM (n : NamespacedName) (vm : VM) : World := { w with vms := w.vms.insert n vm }

def setSecret (n : NamespacedName) (s : StoredSecret) : World :=
  { w with secrets := w.secrets.insert n s }

def getPool (name : String) : Except ApiError IPPool :=
  if name = "" then .error (.other "resource name may not be empty")
  else found (w.pools.lookup name)

def updatePool (name : String) (pool : IPPool) : Except ApiError World :=
  match w.pools.lookup name with
  | none => .error .notFound
  | some stored =>
    if stored.resourceVersion = pool.resourceVersion then
      .ok (w.setPool name pool.stored)
    else .error .conflict

/-- A JSON merge patch of the conditions of a HarvesterCluster replaces the whole list. -/
def patchClusterStatus (k : ObjectKey) (conditions : Conditions) : Except ApiError World :=
  match w.clusters.lookup k with
  | none => .error .notFound
  | some c => .ok (w.setCluster k { c with status := { c.status with conditions := conditions } })

/-- The patch of `EnsurePausedCondition`, which owns the condition. -/
def patchPaused (k : ObjectKey) (c : Condition) : Except ApiError (Unit × World) :=
  match w.machines.lookup k with
  | none => .error .notFound
  | some m => .ok ((), w.setMachine k (m.markPaused c))

/-- The three-way merge of conditions, on the latest version of the machine. -/
def patchConditions (k : ObjectKey) (before after : Conditions) : Except ApiError World :=
  match w.machines.lookup k with
  | none => .error .notFound
  | some m =>
    match Conditions.merge before after m.status.conditions with
    | none => .error (.other "error patching conditions")
    | some cs => .ok (w.setMachine k { m with status := { m.status with conditions := cs } })

/-- The patch of metadata and spec. The server adds no finalizer to an object that is being
deleted, and removes such an object with its last finalizer. -/
def patchObject (k : ObjectKey) (p : ObjectPatch) : Except ApiError World :=
  match w.machines.lookup k with
  | none => .error .notFound
  | some m =>
    let m' := p.apply m
    if m.deleting ∧ ∃ f ∈ m'.finalizers, f ∉ m.finalizers then
      .error (.other "no new finalizers can be added if the object is being deleted")
    else if m.deleting ∧ m'.finalizers = [] then .ok { w with machines := w.machines.erase k }
    else .ok (w.setMachine k m')

def patchStatus (k : ObjectKey) (p : StatusPatch) : Except ApiError World :=
  match w.machines.lookup k with
  | none => .error .notFound
  | some m => .ok (w.setMachine k { m with status := p.apply m.status })

def createVM (k : ObjectKey) (n : NamespacedName) (disks : List PVCTemplate)
    (status : HarvesterMachineStatus) : Except ApiError World :=
  if (w.vms.lookup n).isSome then .error .alreadyExists
  else .ok ({ w with nextUID := w.nextUID + 1 }.setVM n
    { uid := w.nextUID
      state := ⟨none, some .always, false⟩
      disks := disks
      deleting := false
      creator := k
      allocation := status.allocation })

/-- A delete request; the VM goes away some time later. -/
def deleteVM (n : NamespacedName) : Except ApiError World :=
  match w.vms.lookup n with
  | none => .error .notFound
  | some vm => .ok (w.setVM n { vm with deleting := true })

def createSecret (k : ObjectKey) (n : NamespacedName) (data : CloudInitSecret) :
    Except ApiError World :=
  if (w.secrets.lookup n).isSome then .error .alreadyExists
  else .ok (w.setSecret n ⟨data, k⟩)

def updateSecret (n : NamespacedName) (data : CloudInitSecret) : Except ApiError World :=
  match w.secrets.lookup n with
  | none => .error .notFound
  | some s => .ok (w.setSecret n { s with data := data })

def deleteSecret (n : NamespacedName) : Except ApiError World :=
  match w.secrets.lookup n with
  | none => .error .notFound
  | some _ => .ok { w with secrets := w.secrets.erase n }

def listPVCs (ns : String) : List String :=
  (w.pvcs.keys.filter fun n => n.ns = ns).map NamespacedName.name

def deletePVC (n : NamespacedName) : Except ApiError World :=
  match w.pvcs.lookup n with
  | none => .error .notFound
  | some _ => .ok { w with pvcs := w.pvcs.erase n }

/-- The outcome of a request that writes, by machine `k`; other requests leave the world. -/
def write (k : ObjectKey) : Req → Except ApiError World
  | .patchClusterStatus c cs => w.patchClusterStatus c cs
  | .patchConditions b a => w.patchConditions k b a
  | .patchObject p => w.patchObject k p
  | .patchStatus p => w.patchStatus k p
  | .updatePool n p => w.updatePool n p
  | .createVM n d st => w.createVM k n d st
  | .deleteVM n => w.deleteVM n
  | .createSecret n d => w.createSecret k n d
  | .updateSecret n d => w.updateSecret n d
  | .deleteSecret n => w.deleteSecret n
  | .deletePVC n => w.deletePVC n
  | _ => .ok w

def writeUnder (f : Fault) (k : ObjectKey) (r : Req) : Except ApiError Unit × World :=
  f.write w ((w.write k r).map fun w' => ((), w'))

end World

def exec (k : ObjectKey) : (r : Req) → Answer r → World → Resp r × World
  | .getMachine, f, w => (f.reply (found (w.machines.lookup k)), w)
  | .getHarvesterCluster c, f, w => (f.reply (found (w.clusters.lookup c)), w)
  | .getPool n, f, w => (f.reply (w.getPool n), w)
  | .getVM n, f, w => (f.reply (found (w.vms.lookup n)), w)
  | .getSecret n, f, w => (f.reply (found ((w.secrets.lookup n).map StoredSecret.data)), w)
  | .listPVCs ns, f, w => (f.reply (.ok (w.listPVCs ns)), w)
  | .patchClusterStatus c cs, f, w => w.writeUnder f k (.patchClusterStatus c cs)
  | .patchConditions b a, f, w => w.writeUnder f k (.patchConditions b a)
  | .patchObject p, f, w => w.writeUnder f k (.patchObject p)
  | .patchStatus p, f, w => w.writeUnder f k (.patchStatus p)
  | .updatePool n p, f, w => w.writeUnder f k (.updatePool n p)
  | .createVM n d st, f, w => w.writeUnder f k (.createVM n d st)
  | .deleteVM n, f, w => w.writeUnder f k (.deleteVM n)
  | .createSecret n d, f, w => w.writeUnder f k (.createSecret n d)
  | .updateSecret n d, f, w => w.writeUnder f k (.updateSecret n d)
  | .deleteSecret n, f, w => w.writeUnder f k (.deleteSecret n)
  | .deletePVC n, f, w => w.writeUnder f k (.deletePVC n)
  | .getOwnerMachine, x, w => (x, w)
  | .getOwnerCluster _, x, w => (x, w)
  | .ensurePausedCondition _ recorded, a, w => ensurePaused recorded a w (w.patchPaused k)
  | .getIdentitySecret _, x, w => (x, w)
  | .getBootstrapSecret _, x, w => (x, w)
  | .getWorkloadClusterConfig _, x, w => (x, w)
  | .getNodeProviderID _, x, w => (x, w)
  | .initializeWorkloadNode _ _, x, w => (x, w)
  | .removeEtcdMember _, x, w => (x, w)
  | .randomID, x, w => (x, w)
  | .getVMI _, x, w => (x, w)
  | .listImages _, x, w => (x, w)
  | .getKeyPair _, x, w => (x, w)

def Answered (k : ObjectKey) (w : World) (r : Req) (x : Resp r) (w' : World) : Prop :=
  ∃ a : Answer r, exec k r a w = (x, w')

/-- Moves of users, of the cluster controller and of Harvester. -/
inductive Env where
  | createMachine (k : ObjectKey) (controlPlane : Bool) (finalizers : List String)
      (spec : HarvesterMachineSpec)
  | editMachine (k : ObjectKey) (spec : HarvesterMachineSpec)
  | deleteMachine (k : ObjectKey)
  | putCluster (k : ObjectKey) (c : HarvesterCluster)
  | setVMState (n : NamespacedName) (state : VMRunState)
  | vmGone (n : NamespacedName)
  | createClaim (n : NamespacedName) (disk : PVCTemplate)
  | editPool (name selectorNetwork : String) (ranges : List PoolRange)
  | promote (name address : String)
  deriving DecidableEq

/-- Moves an entry to the front: Go iterates over a map in any order. -/
def promoteEntry (t : Option (Table String String)) (a : String) : Option (Table String String) :=
  t.map fun m => match m.lookup a with
    | some v => m.insert a v
    | none => m

def World.env (w : World) : Env → World
  | .createMachine k controlPlane finalizers spec =>
    if (w.machines.lookup k).isSome then w
    else w.setMachine k ⟨controlPlane, finalizers, false, spec, .empty⟩
  | .editMachine k spec =>
    match w.machines.lookup k with
    | none => w
    | some m => w.setMachine k { m with spec := spec }
  | .deleteMachine k =>
    match w.machines.lookup k with
    | none => w
    | some m =>
      if m.finalizers = [] then { w with machines := w.machines.erase k }
      else w.setMachine k { m with deleting := true }
  | .putCluster k c => w.setCluster k c
  | .setVMState n state =>
    match w.vms.lookup n with
    | none => w
    | some vm => w.setVM n { vm with state := state }
  | .vmGone n => { w with vms := w.vms.erase n }
  | .createClaim n disk =>
    match w.vms.lookup n with
    | none => w
    | some vm =>
      if disk ∈ vm.disks then
        { w with pvcs := w.pvcs.insert ⟨disk.ns, disk.name⟩ vm.creator }
      else w
  | .editPool name selectorNetwork ranges =>
    match w.pools.lookup name with
    | none => w
    | some pool => w.setPool name
        { pool with
          resourceVersion := pool.resourceVersion + 1
          selectorNetwork := selectorNetwork
          ranges := ranges }
  | .promote name address =>
    match w.pools.lookup name with
    | none => w
    | some pool => w.setPool name
        { pool with
          status.allocated := promoteEntry pool.status.allocated address
          status.allocatedHistory := promoteEntry pool.status.allocatedHistory address }

end Caphv.Machine
