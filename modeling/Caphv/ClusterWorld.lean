import Caphv.ClusterNames
import Caphv.ControllerRuntime
import Caphv.InfraTypes
import Caphv.PoolAllocation

namespace Caphv.Cluster

open Net (parseIP)

/-- `validateHarvesterCluster`: the list of errors, empty when the object is admitted. `quote`
is the verb `%q`. -/
def validateHarvesterCluster (quote : String → String) (spec : HarvesterClusterSpec) :
    List String :=
  let ipErrors (field value : String) : List String :=
    if value = "" then [field ++ " is required"]
    else if parseIP value = none then [field ++ " " ++ quote value ++ " is not a valid IP address"]
    else []
  (if spec.targetNamespace = "" then ["spec.targetNamespace is required"] else []) ++
  (if spec.identitySecret.name = "" then ["spec.identitySecret.name is required"] else []) ++
  (if spec.identitySecret.ns = "" then ["spec.identitySecret.namespace is required"] else []) ++
  (if spec.loadBalancerConfig.ipamType ≠ .dhcp ∧ spec.loadBalancerConfig.ipamType ≠ .pool then
    ["spec.loadBalancerConfig.ipamType must be \"dhcp\" or \"pool\""] else []) ++
  match spec.vmNetworkConfig with
  | none => []
  | some vmCfg =>
    (if vmCfg.getIPPoolRefs = [] ∧ vmCfg.ipPool = none then
      ["spec.vmNetworkConfig requires one of ipPoolRef, ipPoolRefs or ipPool"] else []) ++
    ipErrors "spec.vmNetworkConfig.gateway" vmCfg.gateway ++
    ipErrors "spec.vmNetworkConfig.subnetMask" vmCfg.subnetMask

/-- The webhook accepts the object; how a value is quoted does not matter for that. -/
def Admitted (spec : HarvesterClusterSpec) : Prop := validateHarvesterCluster id spec = []

instance (spec : HarvesterClusterSpec) : Decidable (Admitted spec) :=
  inferInstanceAs (Decidable (_ = _))

/-- An object that is updated under its resource version. -/
structure Versioned (α : Type) where
  resourceVersion : ℕ
  val : α
  deriving DecidableEq

/-- A pool in Harvester, with, for the proofs only, the cluster whose pass created it. -/
structure StoredPool where
  pool : IPPool
  creator : Option ObjectKey
  deriving DecidableEq

/-- Harvester takes back what the load balancer `id` holds. -/
def StoredPool.releaseByID (id : String) (p : StoredPool) : StoredPool :=
  if Store.getByID p.pool.status id = [] then p
  else { p with pool := { p.pool with status := Store.releaseByID p.pool.status id }.stored }

structure Service where
  loadBalancerIP : String
  ingress : List String
  deriving DecidableEq

structure LoadBalancerSpec where
  description : String
  ipPool : String
  ipam : IPAMType
  listeners : List Listener
  backendSelector : String
  deriving DecidableEq

structure LoadBalancer where
  spec : LoadBalancerSpec
  address : String
  deriving DecidableEq

structure MachineLabels where
  clusterName : Option String
  controlPlane : Bool
  deriving DecidableEq

/-- The objects that the cluster controller reads and writes. `owed` is for the proofs only: the
pools for which a cluster has had its Create answered with success, and which it has neither
deleted nor found gone since. -/
structure World where
  clusters : Table ObjectKey HarvesterCluster
  machines : Table ObjectKey MachineLabels
  configMaps : Table NamespacedName (Versioned (Table String String))
  fleetClusters : Table String (Versioned (Table String String))
  pools : Table String StoredPool
  services : Table NamespacedName (Versioned Service)
  loadBalancers : Table NamespacedName LoadBalancer
  owed : List (ObjectKey × String)
  deriving DecidableEq

structure ObjectPatch where
  finalizers : Option (List String)
  server : Option String
  lbPoolRef : Option String
  controlPlaneEndpoint : Option APIEndpoint
  vmPoolRef : Option String
  deriving DecidableEq

structure StatusPatch where
  ready : Option Bool
  provisioned : Option Bool
  failureDomains : Option (List FailureDomain)
  deriving DecidableEq

def ObjectPatch.between (before after : HarvesterCluster) : ObjectPatch where
  finalizers := changedTo before.finalizers after.finalizers
  server := changedTo before.spec.server after.spec.server
  lbPoolRef := changedTo before.spec.loadBalancerConfig.ipPoolRef
    after.spec.loadBalancerConfig.ipPoolRef
  controlPlaneEndpoint := changedTo before.spec.controlPlaneEndpoint
    after.spec.controlPlaneEndpoint
  vmPoolRef :=
    match before.spec.vmNetworkConfig, after.spec.vmNetworkConfig with
    | some b, some a => changedTo b.ipPoolRef a.ipPoolRef
    | _, _ => none

def StatusPatch.between (before after : HarvesterClusterStatus) : StatusPatch where
  ready := changedTo before.ready after.ready
  provisioned := changedTo before.provisioned after.provisioned
  failureDomains := changedTo before.failureDomains after.failureDomains

/-- `VMNetworkConfig.IPPoolRef = ref` of a pointer that may be nil. -/
def withVMPoolRef (ref : String) (cfg : Option VMNetworkConfig) : Option VMNetworkConfig :=
  cfg.map fun v => { v with ipPoolRef := ref }

def ObjectPatch.apply (p : ObjectPatch) (c : HarvesterCluster) : HarvesterCluster :=
  { c with
    finalizers := p.finalizers.getD c.finalizers
    spec := { c.spec with
      server := p.server.getD c.spec.server
      loadBalancerConfig := { c.spec.loadBalancerConfig with
        ipPoolRef := p.lbPoolRef.getD c.spec.loadBalancerConfig.ipPoolRef }
      controlPlaneEndpoint := p.controlPlaneEndpoint.getD c.spec.controlPlaneEndpoint
      vmNetworkConfig :=
        match p.vmPoolRef with
        | some ref => withVMPoolRef ref c.spec.vmNetworkConfig
        | none => c.spec.vmNetworkConfig } }

def StatusPatch.apply (p : StatusPatch) (st : HarvesterClusterStatus) : HarvesterClusterStatus :=
  { st with
    ready := p.ready.getD st.ready
    provisioned := p.provisioned.getD st.provisioned
    failureDomains := p.failureDomains.getD st.failureDomains }

/-- The owner `Cluster`, as far as the cluster controller reads it. -/
structure Owner where
  key : ObjectKey
  labels : Table String String
  deriving DecidableEq

structure Node where
  name : String
  labels : Table String String
  deriving DecidableEq

structure PoolSpec where
  description : String
  range : PoolRange
  selectorNetwork : String
  deriving DecidableEq

/-- The pool as created; Harvester fills in the status later. -/
def PoolSpec.new (spec : PoolSpec) : IPPool :=
  ⟨1, spec.selectorNetwork, [spec.range], ⟨0, "", none, none⟩⟩

/-- The calls of one pass. Requests without an argument are about the HarvesterCluster that is
reconciled, or about an object whose name is fixed. -/
inductive Req where
  | getCluster
  | getOwnerCluster
  | ensurePausedCondition (owner : Owner) (recorded : Option Condition)
  | getIdentitySecret (n : NamespacedName)
  | getHarvesterDeployment
  | patchConditions (before after : Conditions)
  | patchObject (p : ObjectPatch)
  | patchStatus (p : StatusPatch)
  | getPool (name : String)
  | createPool (name : String) (spec : PoolSpec)
  | updatePool (name : String) (pool : IPPool)
  | deletePool (name : String)
  | getNamespace (name : String)
  | createNamespace (name : String)
  | listNodes
  | listMachines (clusterName : String)
  | getVM (n : NamespacedName)
  | getService (n : NamespacedName)
  | createService (n : NamespacedName) (lbIP : String)
  | updateService (n : NamespacedName) (svc : Versioned Service)
  | deleteService (n : NamespacedName)
  | getLoadBalancer (n : NamespacedName)
  | createLoadBalancer (n : NamespacedName) (spec : LoadBalancerSpec)
  | deleteLoadBalancer (n : NamespacedName)
  | getConfigMap (n : NamespacedName)
  | updateConfigMap (n : NamespacedName) (data : Versioned (Table String String))
  | getCloudConfigB64 (saName ns server : String)
  | listProvisioningClusters (ns : String)
  | getManagementCluster (name : String)
  | patchManagementCluster (name : String)
  | listFleetClusters
  | updateFleetCluster (name : String) (labels : Versioned (Table String String))
  deriving DecidableEq

/-- The response to each request. The identity secret is its kubeconfig, the Deployment its
conditions by type and whether they are true, a provisioning cluster its name and its
`status.clusterName`, the management cluster its `spec.fleetWorkspaceName`. -/
def Resp : Req → Type
  | .getCluster => Except ApiError HarvesterCluster
  | .getOwnerCluster => Except ApiError (Option Owner)
  | .ensurePausedCondition _ _ => PausedResult
  | .getIdentitySecret _ => Except ApiError String
  | .getHarvesterDeployment => Except ApiError (List (String × Bool))
  | .patchConditions _ _ => Except ApiError Unit
  | .patchObject _ => Except ApiError Unit
  | .patchStatus _ => Except ApiError Unit
  | .getPool _ => Except ApiError IPPool
  | .createPool _ _ => Except ApiError IPPool
  | .updatePool _ _ => Except ApiError Unit
  | .deletePool _ => Except ApiError Unit
  | .getNamespace _ => Except ApiError Unit
  | .createNamespace _ => Except ApiError Unit
  | .listNodes => Except ApiError (List Node)
  | .listMachines _ => Except ApiError (List ObjectKey)
  | .getVM _ => Except ApiError Unit
  | .getService _ => Except ApiError (Versioned Service)
  | .createService _ _ => Except ApiError Unit
  | .updateService _ _ => Except ApiError Unit
  | .deleteService _ => Except ApiError Unit
  | .getLoadBalancer _ => Except ApiError LoadBalancer
  | .createLoadBalancer _ _ => Except ApiError Unit
  | .deleteLoadBalancer _ => Except ApiError Unit
  | .getConfigMap _ => Except ApiError (Versioned (Table String String))
  | .updateConfigMap _ _ => Except ApiError Unit
  | .getCloudConfigB64 _ _ _ => Except String String
  | .listProvisioningClusters _ => Except ApiError (List (String × Option String))
  | .getManagementCluster _ => Except ApiError String
  | .patchManagementCluster _ => Except ApiError Unit
  | .listFleetClusters => Except ApiError (List (String × Versioned (Table String String)))
  | .updateFleetCluster _ _ => Except ApiError Unit

/-- What the environment chooses about a request: a fault for the objects of the world, the
whole response for what is kept elsewhere. -/
def Answer : Req → Type
  | .getOwnerCluster => Resp .getOwnerCluster
  | .ensurePausedCondition _ _ => PausedAnswer
  | .getIdentitySecret n => Resp (.getIdentitySecret n)
  | .getHarvesterDeployment => Resp .getHarvesterDeployment
  | .getNamespace n => Resp (.getNamespace n)
  | .createNamespace n => Resp (.createNamespace n)
  | .listNodes => Resp .listNodes
  | .getVM n => Resp (.getVM n)
  | .getCloudConfigB64 sa ns server => Resp (.getCloudConfigB64 sa ns server)
  | .listProvisioningClusters ns => Resp (.listProvisioningClusters ns)
  | .getManagementCluster n => Resp (.getManagementCluster n)
  | .patchManagementCluster n => Resp (.patchManagementCluster n)
  | _ => Fault

namespace World

variable (w : World)

def setCluster (k : ObjectKey) (c : HarvesterCluster) : World :=
  { w with clusters := w.clusters.insert k c }

def setPool (name : String) (p : StoredPool) : World := { w with pools := w.pools.insert name p }

def emptyName : ApiError := .other "resource name may not be empty"

def getPool (name : String) : Except ApiError IPPool :=
  if name = "" then .error emptyName else found ((w.pools.lookup name).map StoredPool.pool)

def createPool (k : ObjectKey) (name : String) (spec : PoolSpec) :
    Except ApiError (IPPool × World) :=
  if name = "" then .error emptyName
  else if (w.pools.lookup name).isSome then .error .alreadyExists
  else .ok (spec.new, w.setPool name ⟨spec.new, some k⟩)

def updatePool (name : String) (pool : IPPool) : Except ApiError (Unit × World) :=
  match w.pools.lookup name with
  | none => .error .notFound
  | some stored =>
    if stored.pool.resourceVersion = pool.resourceVersion then
      .ok ((), w.setPool name
        { stored with pool := pool.stored })
    else .error .conflict

def deletePool (name : String) : Except ApiError (Unit × World) :=
  if name = "" then .error emptyName
  else match w.pools.lookup name with
    | none => .error .notFound
    | some _ => .ok ((), { w with pools := w.pools.erase name })

/-- The patch of `EnsurePausedCondition`, which owns the condition. -/
def patchPaused (k : ObjectKey) (p : Condition) : Except ApiError (Unit × World) :=
  match w.clusters.lookup k with
  | none => .error .notFound
  | some c => .ok ((), w.setCluster k (c.markPaused p))

/-- The three-way merge of conditions, on the latest version of the cluster. -/
def patchConditions (k : ObjectKey) (before after : Conditions) :
    Except ApiError (Unit × World) :=
  match w.clusters.lookup k with
  | none => .error .notFound
  | some c =>
    match Conditions.merge before after c.status.conditions with
    | none => .error (.other "error patching conditions")
    | some cs =>
      .ok ((), w.setCluster k { c with status := { c.status with conditions := cs } })

/-- The patch of metadata and spec. A network configuration that someone removed does not come
back with a reference alone, the webhook sees the result, and finalizers behave as for
machines. -/
def patchObject (k : ObjectKey) (p : ObjectPatch) : Except ApiError (Unit × World) :=
  match w.clusters.lookup k with
  | none => .error .notFound
  | some c =>
    let c' := p.apply c
    if p.vmPoolRef.isSome ∧ c.spec.vmNetworkConfig = none then
      .error (.other "spec.vmNetworkConfig.gateway: Required value")
    else if ¬ Admitted c'.spec then .error (.other "admission webhook denied the request")
    else if c.deleting ∧ ∃ f ∈ c'.finalizers, f ∉ c.finalizers then
      .error (.other "no new finalizers can be added if the object is being deleted")
    else if c.deleting ∧ c'.finalizers = [] then
      .ok ((), { w with clusters := w.clusters.erase k })
    else .ok ((), w.setCluster k c')

def patchStatus (k : ObjectKey) (p : StatusPatch) : Except ApiError (Unit × World) :=
  match w.clusters.lookup k with
  | none => .error .notFound
  | some c => .ok ((), w.setCluster k { c with status := p.apply c.status })

def createService (n : NamespacedName) (lbIP : String) : Except ApiError (Unit × World) :=
  if (w.services.lookup n).isSome then .error .alreadyExists
  else .ok ((), { w with services := w.services.insert n ⟨1, ⟨lbIP, []⟩⟩ })

def deleteService (n : NamespacedName) : Except ApiError (Unit × World) :=
  match w.services.lookup n with
  | none => .error .notFound
  | some _ => .ok ((), { w with services := w.services.erase n })

def createLoadBalancer (n : NamespacedName) (spec : LoadBalancerSpec) :
    Except ApiError (Unit × World) :=
  if (w.loadBalancers.lookup n).isSome then .error .alreadyExists
  else .ok ((), { w with loadBalancers := w.loadBalancers.insert n ⟨spec, ""⟩ })

/-- With the load balancer, Harvester removes the entries of the pools that are keyed by it. -/
def deleteLoadBalancer (n : NamespacedName) : Except ApiError (Unit × World) :=
  match w.loadBalancers.lookup n with
  | none => .error .notFound
  | some _ => .ok ((), { w with
      loadBalancers := w.loadBalancers.erase n
      pools := w.pools.mapValues (StoredPool.releaseByID (n.ns ++ "/" ++ n.name)) })

def listMachines (clusterName : String) : List ObjectKey :=
  (w.machines.entries.filter fun e =>
    e.2.clusterName = some clusterName ∧ e.2.controlPlane).map Sigma.fst

def listFleetClusters : List (String × Versioned (Table String String)) :=
  w.fleetClusters.entries.map fun e => (e.1, e.2)

end World

def updateVersioned {κ α : Type} [DecidableEq κ] (t : Table κ (Versioned α)) (key : κ)
    (new : Versioned α) : Except ApiError (Table κ (Versioned α)) :=
  match t.lookup key with
  | none => .error .notFound
  | some stored =>
    if stored.resourceVersion = new.resourceVersion then
      .ok (t.insert key ⟨new.resourceVersion + 1, new.val⟩)
    else .error .conflict

def World.note (w : World) (k : ObjectKey) : (r : Req) → Resp r → World
  | .createPool n _, .ok _ => { w with owed := (k, n) :: w.owed }
  | .deletePool n, x => if gone x then { w with owed := w.owed.filter (· ≠ (k, n)) } else w
  | _, _ => w

def respond (k : ObjectKey) : (r : Req) → Answer r → World → Resp r × World
  | .getCluster, f, w => (f.reply (found (w.clusters.lookup k)), w)
  | .getPool n, f, w => (f.reply (w.getPool n), w)
  | .createPool n spec, f, w => f.write w (w.createPool k n spec)
  | .updatePool n p, f, w => f.write w (w.updatePool n p)
  | .deletePool n, f, w => f.write w (w.deletePool n)
  | .patchConditions b a, f, w => f.write w (w.patchConditions k b a)
  | .patchObject p, f, w => f.write w (w.patchObject k p)
  | .patchStatus p, f, w => f.write w (w.patchStatus k p)
  | .listMachines n, f, w => (f.reply (.ok (w.listMachines n)), w)
  | .getService n, f, w => (f.reply (found (w.services.lookup n)), w)
  | .createService n ip, f, w => f.write w (w.createService n ip)
  | .updateService n svc, f, w => f.write w
      ((updateVersioned w.services n svc).map fun t => ((), { w with services := t }))
  | .deleteService n, f, w => f.write w (w.deleteService n)
  | .getLoadBalancer n, f, w => (f.reply (found (w.loadBalancers.lookup n)), w)
  | .createLoadBalancer n spec, f, w => f.write w (w.createLoadBalancer n spec)
  | .deleteLoadBalancer n, f, w => f.write w (w.deleteLoadBalancer n)
  | .getConfigMap n, f, w => (f.reply (found (w.configMaps.lookup n)), w)
  | .updateConfigMap n data, f, w => f.write w
      ((updateVersioned w.configMaps n data).map fun t => ((), { w with configMaps := t }))
  | .listFleetClusters, f, w => (f.reply (.ok w.listFleetClusters), w)
  | .updateFleetCluster n labels, f, w => f.write w
      ((updateVersioned w.fleetClusters n labels).map fun t => ((), { w with fleetClusters := t }))
  | .getOwnerCluster, x, w => (x, w)
  | .ensurePausedCondition _ recorded, a, w => ensurePaused recorded a w (w.patchPaused k)
  | .getIdentitySecret _, x, w => (x, w)
  | .getHarvesterDeployment, x, w => (x, w)
  | .getNamespace _, x, w => (x, w)
  | .createNamespace _, x, w => (x, w)
  | .listNodes, x, w => (x, w)
  | .getVM _, x, w => (x, w)
  | .getCloudConfigB64 _ _ _, x, w => (x, w)
  | .listProvisioningClusters _, x, w => (x, w)
  | .getManagementCluster _, x, w => (x, w)
  | .patchManagementCluster _, x, w => (x, w)

def exec (k : ObjectKey) (r : Req) (a : Answer r) (w : World) : Resp r × World :=
  let out := respond k r a w
  (out.1, out.2.note k r out.1)

/-- Moves of users, of the machine controller and of Harvester. -/
inductive Env where
  | createCluster (k : ObjectKey) (finalizers : List String) (spec : HarvesterClusterSpec)
  | editCluster (k : ObjectKey) (spec : HarvesterClusterSpec)
  | deleteCluster (k : ObjectKey)
  | patchClusterStatus (k : ObjectKey) (conditions : Conditions)
  | createPool (name : String) (pool : IPPool)
  | putPool (name : String) (pool : IPPool)
  | erasePool (name : String)
  | putMachine (k : ObjectKey) (labels : MachineLabels)
  | eraseMachine (k : ObjectKey)
  | setIngress (n : NamespacedName) (ingress : List String)
  | setAddress (n : NamespacedName) (address : String)
  | putConfigMap (n : NamespacedName) (data : Versioned (Table String String))
  | putFleetCluster (name : String) (labels : Versioned (Table String String))
  deriving DecidableEq

/-- Users write a HarvesterCluster only through admission; the machine controller writes its
conditions. -/
def World.env (w : World) : Env → World
  | .createCluster k finalizers spec =>
    if (w.clusters.lookup k).isSome ∨ ¬ Admitted spec then w
    else { w with
      clusters := w.clusters.insert k ⟨finalizers, false, spec, .empty⟩
      owed := w.owed.filter fun e => e.1 ≠ k }
  | .editCluster k spec =>
    match w.clusters.lookup k with
    | none => w
    | some c => if Admitted spec then w.setCluster k { c with spec := spec } else w
  | .deleteCluster k =>
    match w.clusters.lookup k with
    | none => w
    | some c =>
      if c.finalizers = [] then { w with clusters := w.clusters.erase k }
      else w.setCluster k { c with deleting := true }
  | .patchClusterStatus k cs =>
    match w.clusters.lookup k with
    | none => w
    | some c => w.setCluster k { c with status := { c.status with conditions := cs } }
  | .createPool name pool =>
    if (w.pools.lookup name).isSome then w else w.setPool name ⟨pool, none⟩
  | .putPool name pool =>
    match w.pools.lookup name with
    | none => w
    | some stored => w.setPool name { stored with pool := pool }
  | .erasePool name => { w with pools := w.pools.erase name }
  | .putMachine k labels => { w with machines := w.machines.insert k labels }
  | .eraseMachine k => { w with machines := w.machines.erase k }
  | .setIngress n ingress =>
    match w.services.lookup n with
    | none => w
    | some svc =>
      let svc' := ⟨svc.resourceVersion + 1, { svc.val with ingress := ingress }⟩
      { w with services := w.services.insert n svc' }
  | .setAddress n address =>
    match w.loadBalancers.lookup n with
    | none => w
    | some lb => { w with loadBalancers := w.loadBalancers.insert n { lb with address := address } }
  | .putConfigMap n data => { w with configMaps := w.configMaps.insert n data }
  | .putFleetCluster n labels => { w with fleetClusters := w.fleetClusters.insert n labels }

end Caphv.Cluster
