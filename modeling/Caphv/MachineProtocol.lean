import Caphv.MachineController

namespace Caphv.Machine

/-- The responses a pass has had so far, as far as its later requests depend on them. -/
structure View where
  machine : Option HarvesterMachine
  cluster : Option (ObjectKey × HarvesterCluster)
  /-- The pool read or written last, as it was stored then. -/
  pool : Option (String × IPPool)
  /-- A read or an update of a pool failed. -/
  poolFailed : Bool
  vmAbsent : Bool
  secretAbsent : Bool
  /-- The claims were listed: what came back, and the deletes issued since. -/
  listed : Option (Except ApiError (List String))
  attempted : List String
  /-- The deferred patch has gone past the conditions. -/
  patched : Bool

def View.fresh : View where
  machine := none
  cluster := none
  pool := none
  poolFailed := false
  vmAbsent := false
  secretAbsent := false
  listed := none
  attempted := []
  patched := false

def View.next (v : View) : (r : Req) → Resp r → View
  | .getMachine, .ok m => { v with machine := some m }
  | .getHarvesterCluster k, .ok c => { v with cluster := some (k, c) }
  | .getPool n, .ok p => { v with pool := some (n, p) }
  | .getPool _, .error _ => { v with pool := none, poolFailed := true }
  | .updatePool n p, .ok () =>
    { v with pool := some (n, p.stored) }
  | .updatePool _ _, .error _ => { v with pool := none, poolFailed := true }
  | .getVM _, .ok _ => { v with vmAbsent := false }
  | .getVM _, .error e => { v with vmAbsent := e.isNotFound }
  | .deleteSecret _, x => { v with secretAbsent := gone x }
  | .listPVCs _, x => { v with listed := some x, attempted := [] }
  | .deletePVC n, _ => { v with attempted := n.name :: v.attempted }
  | .patchObject _, _ => { v with patched := true }
  | .patchStatus _, _ => { v with patched := true }
  | _, _ => v

/-- The machine controller: every HarvesterMachine has at most one pass under way. -/
def system (ext : Externals) : Controller ObjectKey Req Resp Answer World View Env where
  program k := do
    let _ ← reconcile ext k
    pure ()
  exec := exec
  next := View.next
  fresh := .fresh
  env e w := w.env e

abbrev MachineState := State ObjectKey Req Resp World View

abbrev MachineAction := Action ObjectKey Req Answer Env

abbrev MachineEvent := Event ObjectKey Req Answer Env

def poolRefs (m : HarvesterMachine) (c : HarvesterCluster) : List String :=
  ((effectiveVMNetworkConfig m c).map VMNetworkConfig.getIPPoolRefs).getD []

namespace View

variable (v : View) (k : ObjectKey) (m : HarvesterMachine) (ck : ObjectKey)
  (c : HarvesterCluster)

structure Normal : Prop where
  machine : v.machine = some m
  cluster : v.cluster = some (ck, c)
  unpatched : v.patched = false
  alive : m.deleting = false
  protected_ : machineFinalizer ∈ m.finalizers

structure Deleting : Prop where
  machine : v.machine = some m
  cluster : v.cluster = some (ck, c)
  unpatched : v.patched = false
  deleting : m.deleting = true

/-- The pass has seen its machine's id at address `x` of pool `n`, by reading or writing. -/
def Holds (n x : String) : Prop := ∃ p, v.pool = some (n, p) ∧ p.status.holder x = some k.id

/-- The status in memory records the address of the status read, or, when that was empty,
one that the pass has seen held by its machine. -/
def Records (st : HarvesterMachineStatus) : Prop :=
  (st.allocatedIPAddress = m.status.allocatedIPAddress ∧
      st.allocatedPoolRef = m.status.allocatedPoolRef) ∨
    (m.deleting = false ∧ machineFinalizer ∈ m.finalizers ∧
      m.status.allocatedIPAddress = "" ∧
      v.Holds k st.allocatedPoolRef st.allocatedIPAddress)

/-- `releaseVMIP` was done: there was nothing to give back, a pool call failed, or the pool
was seen without the address. -/
def Released : Prop :=
  m.status.allocatedIPAddress = "" ∨ releasePoolRef m c = "" ∨ v.poolFailed = true ∨
    ∀ ip, Net.parseIP m.status.allocatedIPAddress = some ip →
      ∃ p, v.pool = some (releasePoolRef m c, p) ∧ p.status.holder ip.string = none

def Swept : Prop :=
  ∃ x, v.listed = some x ∧ ∀ names, x = .ok names →
    ∀ name ∈ names, (diskPrefix k.name).toList.isPrefixOf name.toList → name ∈ v.attempted

/-- The finalizers a pass may write over those it read. -/
inductive FinalizerStep : List String → Prop where
  | keep : FinalizerStep m.finalizers
  | migrate (alive : m.deleting = false) (legacy : machineFinalizerLegacy ∈ m.finalizers)
      (new : machineFinalizer ∉ m.finalizers) : FinalizerStep (migrateFinalizer m.finalizers)
  | add (alive : m.deleting = false) (legacy : machineFinalizerLegacy ∉ m.finalizers)
      (new : machineFinalizer ∉ m.finalizers) :
      FinalizerStep (addFinalizer m.finalizers machineFinalizer)
  | drop (deleting : v.Deleting m ck c) (address : v.Released m c) (vm : v.vmAbsent = true)
      (secret : v.secretAbsent = true) (disks : v.Swept k) :
      FinalizerStep (dropFinalizers m.finalizers)

end View

def initMachineCreated : Condition := ⟨.true_, "InitMachineCreated", ""⟩

def vmName (k : ObjectKey) (c : HarvesterCluster) : NamespacedName :=
  ⟨c.spec.targetNamespace, k.name⟩

def secretName (k : ObjectKey) (c : HarvesterCluster) : NamespacedName :=
  ⟨c.spec.targetNamespace, cloudInitSecretName k.name⟩

/-- A disk that `createVMFromHarvesterMachine` makes for the machine. -/
def IsDiskOf (k : ObjectKey) (c : HarvesterCluster) (d : PVCTemplate) : Prop :=
  d.ns = c.spec.targetNamespace ∧ ∃ i randomID, d.name = pvcName k.name i randomID

/-- The update of a pool that `AllocateVMIPFromPool` prepared. -/
structure Allocates (ext : Externals) (k : ObjectKey) (v : View) (n : String) (p' : IPPool)
    (m : HarvesterMachine) (ck : ObjectKey) (c : HarvesterCluster) (p : IPPool) (ip : String) :
    Prop where
  phase : v.Normal m ck c
  unrecorded : m.status.allocatedIPAddress = ""
  listed : n ∈ poolRefs m c
  read : v.pool = some (n, p)
  new : existingAllocation p k.id = none
  network : poolMatchesNetworks p m.spec.networks = true
  result : allocateVMIPFromPool ext.allocator p k.id = .ok (ip, p')

structure Releases (v : View) (n : String) (p' : IPPool) (m : HarvesterMachine) (ck : ObjectKey)
    (c : HarvesterCluster) (p : IPPool) (ip : Net.IP) : Prop where
  phase : v.Deleting m ck c
  name : n = releasePoolRef m c
  read : v.pool = some (n, p)
  address : Net.parseIP m.status.allocatedIPAddress = some ip
  result : p' = { p with status := Store.release p.status (some ip) }

/-- The requests that a pass of machine `k` may issue with what it has seen. -/
def Guard (ext : Externals) (k : ObjectKey) (v : View) : Req → Prop
  | .getMachine => v.machine = none
  | .getHarvesterCluster _ => v.machine ≠ none
  | .getPool n =>
    (∃ m ck c, v.Normal m ck c ∧ m.status.allocatedIPAddress = "" ∧ n ∈ poolRefs m c) ∨
      (∃ m ck c, v.Deleting m ck c ∧ m.status.allocatedIPAddress ≠ "" ∧ n = releasePoolRef m c)
  | .updatePool n p' =>
    (∃ m ck c p ip, Allocates ext k v n p' m ck c p ip) ∨
      (∃ m ck c p ip, Releases v n p' m ck c p ip)
  | .getVM n => ∃ ck c, v.cluster = some (ck, c) ∧ n = vmName k c
  | .createVM n disks st => ∃ m ck c, v.Normal m ck c ∧ n = vmName k c ∧
      (∀ d ∈ disks, IsDiskOf k c d) ∧ v.Records k m st
  | .createSecret n _ => ∃ m ck c, v.Normal m ck c ∧ n = secretName k c
  | .updateSecret n _ => ∃ m ck c, v.Normal m ck c ∧ n = secretName k c
  | .patchClusterStatus ck cs => ∃ m c, v.Normal m ck c ∧
      c.status.conditions.isTrue "InitMachineCreated" = false ∧
      cs = c.status.conditions.set "InitMachineCreated" initMachineCreated
  | .deleteSecret n => ∃ m ck c, v.Deleting m ck c ∧ n = secretName k c
  | .deleteVM n => ∃ m ck c, v.Deleting m ck c ∧ n = vmName k c
  | .listPVCs ns => ∃ m ck c, v.Deleting m ck c ∧ v.vmAbsent = true ∧
      ns = c.spec.targetNamespace
  | .deletePVC n => ∃ m ck c, v.Deleting m ck c ∧ v.vmAbsent = true ∧
      n.ns = c.spec.targetNamespace ∧ (diskPrefix k.name).toList.isPrefixOf n.name.toList
  | .patchConditions before _ => ∃ m, v.machine = some m ∧ before = m.status.conditions
  | .patchObject p => ∃ m m' ck c, v.machine = some m ∧ v.patched = false ∧
      p = .between m m' ∧ v.FinalizerStep k m ck c m'.finalizers
  | .patchStatus p => ∃ m st, v.machine = some m ∧ p = .between m.status st ∧ v.Records k m st
  | _ => True

def contract (ext : Externals) : Contract ObjectKey Req View := ⟨Guard ext, fun _ _ => True⟩

end Caphv.Machine
