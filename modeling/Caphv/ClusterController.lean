import Mathlib.Data.List.Sort
import Caphv.ClusterWorld
import Caphv.Interleaving

namespace Caphv.Cluster

open Net (IP parseIP)

/-- A kubeconfig as `clientcmd.Load` returns it: the current context, the cluster of each
context and the server of each cluster. -/
structure KubeConfig where
  currentContext : String
  contexts : Table String String
  clusters : Table String String

/-- Code outside the repository that the controller calls as a function. -/
structure Externals where
  allocator : Allocator
  loadKubeconfig : String → Except String KubeConfig
  restConfigFromKubeConfig : String → Except String Unit
  newKubeClient : String → Except String Unit
  newHarvesterClient : String → Except String Unit
  decodeBase64 : String → Except String String
  modifyYAMLString : (manifest secretName ns key value : String) → Except String String
  /-- How the context prints in a message. -/
  contextText : String

/-- `ClusterScope`, without the HarvesterCluster, which the pass mutates. -/
structure Scope where
  key : ObjectKey
  cluster : Owner

def requeueTimeMedium : ℕ := 300

def requeueTimeLong : ℕ := 180

abbrev Pass (α : Type) := Body Req Resp HarvesterCluster α

abbrev call (r : Req) : Pass (Resp r) := Body.request r

def modifySpec (f : HarvesterClusterSpec → HarvesterClusterSpec) : Pass Unit :=
  Body.modify fun c => { c with spec := f c.spec }

def modifyStatus (f : HarvesterClusterStatus → HarvesterClusterStatus) : Pass Unit :=
  Body.modify fun c => { c with status := f c.status }

def setCondition (type : String) (c : Condition) : Pass Unit :=
  modifyStatus fun st => { st with conditions := st.conditions.set type c }

def deleteCondition (type : String) : Pass Unit :=
  modifyStatus fun st => { st with conditions := st.conditions.delete type }

/-- `append(cluster.Status.Conditions, c)`: the patch keeps the last entry of a type, and no
code reads this type between the append and the patch. -/
def appendCondition (type : String) (c : Condition) : Pass Unit :=
  modifyStatus fun st => { st with conditions := st.conditions.insert type c }

def recordPaused (paused : PausedResult) : Pass Unit :=
  match paused.condition with
  | none => pure ()
  | some c => setCondition "Paused" c

def setReady (ready : Bool) : Pass Unit := modifyStatus fun st => { st with ready := ready }

def setVMPoolRef (name : String) : Pass Unit :=
  modifySpec fun spec => { spec with vmNetworkConfig := withVMPoolRef name spec.vmNetworkConfig }

def setLBPoolRef (name : String) : Pass Unit :=
  modifySpec fun spec => { spec with
    loadBalancerConfig := { spec.loadBalancerConfig with ipPoolRef := name } }

def formatStrings (xs : List String) : String := "[" ++ String.intercalate " " xs ++ "]"

def getHarvesterServerFromKubeconfig (ext : Externals) (kubeconfig : String) :
    Except String String :=
  match ext.loadKubeconfig kubeconfig with
  | .error e => .error ("unable to load a valid harvester config from the referenced secret: " ++ e)
  | .ok config =>
    if config.currentContext = "" then
      .error "the provided kubeconfig is malformed: no current-context set"
    else
      match config.contexts.lookup config.currentContext with
      | none => .error ("the provided kubeconfig is malformed, no context section corresponds " ++
          "to the current-context, with the name " ++ config.currentContext)
      | some cluster =>
        match config.clusters.lookup cluster with
        | none => .error ("the provided kubeconfig is malformed, no cluster section corresponds " ++
            "to the cluster name " ++ cluster ++ " in the context " ++ config.currentContext)
        | some server =>
          if server = "" then
            .error ("the provided Kubeconfig is malformed, no server found for cluster " ++ cluster)
          else .ok server

def isHarvesterAvailable (conditions : List (String × Bool)) : Bool :=
  conditions.any fun c => c.1 = "Available" && c.2

def connectionNotReady (reason message : String) : Pass Unit :=
  setCondition "HarvesterConnectionReady" ⟨.false_, reason, message⟩

/-- `reconcileHarvesterConfig`; returns the kubeconfig that the REST configuration is made of. -/
def reconcileHarvesterConfig (ext : Externals) : Pass (Except String String) := do
  connectionNotReady "HarvesterConnectionInProgress" "Attempting to connect to Harvester"
  let c ← Body.get
  let secret ← call (.getIdentitySecret c.spec.identitySecret)
  match secret with
  | .error e => do
    setReady false
    connectionNotReady "HarvesterAuthenticationFailed"
      ("Failed to get IdentitySecret: " ++ e.message)
    pure (.error ("unable to find the IdentitySecret for Harvester " ++ ext.contextText ++ ": " ++
      e.message))
  | .ok kubeconfig =>
    match getHarvesterServerFromKubeconfig ext kubeconfig with
    | .error e => do
      setReady false
      connectionNotReady "HarvesterAuthenticationFailed" ("Invalid kubeconfig: " ++ e)
      pure (.error e)
    | .ok harvesterServer => do
      modifySpec fun spec => { spec with server := harvesterServer }
      match ext.restConfigFromKubeConfig kubeconfig with
      | .error e => do
        connectionNotReady "HarvesterConnectionFailed" ("Failed to create REST config: " ++ e)
        pure (.error e)
      | .ok () =>
        match ext.newKubeClient kubeconfig with
        | .error e => do
          connectionNotReady "HarvesterConnectionFailed"
            ("Failed to create Kubernetes client: " ++ e)
          pure (.error e)
        | .ok () => do
          let deployment ← call .getHarvesterDeployment
          match deployment with
          | .error e => do
            connectionNotReady "HarvesterConnectionFailed"
              ("Harvester deployment not found: " ++ e.message)
            pure (.error e.message)
          | .ok conditions =>
            if !isHarvesterAvailable conditions then do
              connectionNotReady "HarvesterConnectionFailed" "Harvester cluster is unavailable"
              pure (.error "harvester cluster is unavailable")
            else do
              setCondition "HarvesterConnectionReady" ⟨.true_, "HarvesterConnectionReady",
                "Successfully connected and authenticated to Harvester API"⟩
              pure (.ok kubeconfig)

def vmPoolReady (c : Condition) : Pass Unit := setCondition "VMIPPoolReady" c

def verifyPools : List String → List String → Pass (Except String (List String))
  | [], readyPools => pure (.ok readyPools)
  | ref :: refs, readyPools => do
    let got ← call (.getPool ref)
    match got with
    | .error e => do
      vmPoolReady ⟨.false_, "VMIPPoolCreationFailed",
        "Referenced VM IP pool " ++ ref ++ " not found: " ++ e.message⟩
      pure (.error ("referenced VM IP pool " ++ ref ++ " not found: " ++ e.message))
    | .ok _ => verifyPools refs (readyPools ++ [ref])

def vmPoolToCreate (k : ObjectKey) (p : IpPoolSpec) : PoolSpec where
  description := "VM IP Pool for cluster " ++ k.ns ++ "/" ++ k.name
  range := ⟨p.subnet, p.gateway, p.rangeStart, p.rangeEnd⟩
  selectorNetwork := p.vmNetwork

def createVMIPPool (sc : Scope) (p : IpPoolSpec) : Pass (Except String Unit) := do
  let poolName := sc.key.vmPoolName
  let created ← call (.createPool poolName (vmPoolToCreate sc.key p))
  match created with
  | .error e =>
    if e.isAlreadyExists then do
      let got ← call (.getPool poolName)
      match got with
      | .error getErr => pure (.error ("pool " ++ poolName ++
          " already exists but failed to retrieve: " ++ getErr.message))
      | .ok _ => do
        setVMPoolRef poolName
        pure (.ok ())
    else do
      vmPoolReady ⟨.false_, "VMIPPoolCreationFailed",
        "Failed to create VM IP pool: " ++ e.message⟩
      pure (.error ("failed to create VM IP pool: " ++ e.message))
  | .ok _ => do
    setVMPoolRef poolName
    setCondition "VMIPPoolCreatedByController" ⟨.true_, "VMIPPoolCreatedByController",
      "VM IP pool " ++ poolName ++ " was created by the controller"⟩
    vmPoolReady ⟨.true_, "VMIPPoolReady", "VM IP pool " ++ poolName ++ " created successfully"⟩
    pure (.ok ())

def reconcileVMIPPool (sc : Scope) : Pass (Except String Unit) := do
  let c ← Body.get
  match c.spec.vmNetworkConfig with
  | none => pure (.ok ())
  | some vmNetCfg =>
    if vmNetCfg.getIPPoolRefs ≠ [] then do
      let verified ← verifyPools vmNetCfg.getIPPoolRefs []
      match verified with
      | .error e => pure (.error e)
      | .ok readyPools => do
        vmPoolReady ⟨.true_, "VMIPPoolReady", "VM IP pool(s) ready: " ++ formatStrings readyPools⟩
        pure (.ok ())
    else
      match vmNetCfg.ipPool with
      | none => pure (.error "VMNetworkConfig requires either IPPoolRef or IPPool to be set")
      | some p => do
        let poolName := sc.key.vmPoolName
        let existing ← call (.getPool poolName)
        match existing with
        | .ok _ => do
          setVMPoolRef poolName
          vmPoolReady ⟨.true_, "VMIPPoolReady", "VM IP pool " ++ poolName ++ " is ready"⟩
          pure (.ok ())
        | .error e =>
          if e.isNotFound then createVMIPPool sc p
          else pure (.error ("failed to check for existing VM IP pool " ++ poolName ++ ": " ++
            e.message))

/-- The loop of `allocateIPFromPool` over the history: every entry of the load balancer is
reserved again, and the last one is the address. -/
def allocateHistory (a : Allocator) (ranges : List AllocatorRange) (id : String) :
    List (String × String) → Option IP → IPPoolStatus → GoResult (Option IP × IPPoolStatus)
  | [], ip, st => .ok (ip, st)
  | (k, v) :: rest, ip, st =>
    if id = v then do
      let (ip', st') ← a.get ranges st id (parseIP k)
      allocateHistory a ranges id rest (some ip') st'
    else allocateHistory a ranges id rest ip st

def chooseIPFromPool (a : Allocator) (pool : IPPool) (lbNamespacedName : String) :
    GoResult (IP × IPPool) := do
  let rangeSet ← pool.ranges.mapM (makeRange a.nextIP)
  let history := (Table.ofNil pool.status.allocatedHistory).entries.map fun e => (e.1, e.2)
  let (ip, st) ← allocateHistory a rangeSet lbNamespacedName history none pool.status
  match ip with
  | some ip => pure (ip, { pool with status := st })
  | none => do
    let (ip, st) ← a.get rangeSet st lbNamespacedName none
    pure (ip, { pool with status := st })

def allocateIPFromPool (ext : Externals) (name : String) (pool : IPPool)
    (lbNamespacedName : String) : Pass (Except String String) :=
  match chooseIPFromPool ext.allocator pool lbNamespacedName with
  | .panic => Body.panic
  | .err e => pure (.error e)
  | .ok (ip, pool') => do
    let updated ← call (.updatePool name pool')
    match updated with
    | .error e => pure (.error e.message)
    | .ok () => pure (.ok ip.string)

def checkValidIpPoolDefinition (p : IpPoolSpec) : Bool :=
  if p = ⟨"", "", "", "", ""⟩ then false
  else if p.subnet = "" ∨ p.gateway = "" ∨ p.vmNetwork = "" then false
  else true

def lbPoolToCreate (k : ObjectKey) (p : IpPoolSpec) : PoolSpec where
  description := "IP Pool for the control plane's LB of cluster " ++ k.name
  range := ⟨p.subnet, p.gateway, p.rangeStart, p.rangeEnd⟩
  selectorNetwork := p.vmNetwork

def createIPPoolIfNotExists (sc : Scope) : Pass (Except String (String × IPPool)) := do
  let c ← Body.get
  let name := sc.key.lbPoolName
  let created ← call (.createPool name (lbPoolToCreate sc.key c.spec.loadBalancerConfig.ipPool))
  match created with
  | .error e =>
    if e.isAlreadyExists then do
      let got ← call (.getPool name)
      match got with
      | .error e => pure (.error e.message)
      | .ok pool => pure (.ok (name, pool))
    else do
      appendCondition "CustomIPPoolCreated" ⟨.false_, "CustomPoolCreationInHarvesterFailed",
        "Unable to create Custom Ip Pool in Harvester"⟩
      setReady false
      pure (.error e.message)
  | .ok pool =>
    if name = "" then pure (.error ("IP Pool for HarvesterCluster " ++ sc.key.name ++
      " could not be correctly created"))
    else do
      appendCondition "CustomIPPoolCreated" ⟨.true_, "CustomIPPoolCreatedSuccessfully",
        "Custom Pool was created successfully"⟩
      setReady false
      pure (.ok (name, pool))

/-- The pool that `getIPFromIPPool` allocates from: the referenced one, or the one defined in
the spec, which is created and referenced. -/
def lbPool (sc : Scope) : Pass (Except String (String × IPPool)) := do
  let c ← Body.get
  let lb := c.spec.loadBalancerConfig
  if lb.ipPoolRef = "" then
    if !checkValidIpPoolDefinition lb.ipPool then
      pure (.error "IP Pool reference is empty, while IPAMType is set to pool")
    else do
      let created ← createIPPoolIfNotExists sc
      match created with
      | .error e => pure (.error e)
      | .ok (name, pool) => do
        setLBPoolRef name
        pure (.ok (name, pool))
  else do
    let got ← call (.getPool lb.ipPoolRef)
    match got with
    | .error e => pure (.error ("could not get referenced IP Pool " ++ lb.ipPoolRef ++ ": " ++
        e.message))
    | .ok pool => pure (.ok (lb.ipPoolRef, pool))

def getIPFromIPPool (ext : Externals) (sc : Scope) (lbNamespacedName : String) :
    Pass (Except String String) := do
  let c ← Body.get
  let got ← lbPool sc
  match got with
  | .error e => pure (.error e)
  | .ok (name, pool) =>
    if pool.status.available = 0 then pure (.error ("IP Pool " ++
      c.spec.loadBalancerConfig.ipPoolRef ++ " does not have available addresses"))
    else allocateIPFromPool ext name pool lbNamespacedName

/-- The object that `createLoadBalancerIfNotExists` creates; `getListenersFromAPI` copies the
listeners of the spec. -/
def lbToCreate (sc : Scope) (c : HarvesterCluster) : LoadBalancerSpec where
  description := "Load Balancer for cluster " ++ sc.key.name
  ipPool := c.spec.loadBalancerConfig.ipPoolRef
  ipam := c.spec.loadBalancerConfig.ipamType
  listeners := c.spec.loadBalancerConfig.listeners ++ [⟨"api-server", 6443, "TCP", 6443⟩]
  backendSelector := "controlplane-" ++ sc.cluster.key.name

def lbKey (sc : Scope) (c : HarvesterCluster) : NamespacedName :=
  ⟨c.spec.targetNamespace, sc.key.lbName⟩

def createLoadBalancerIfNotExists (sc : Scope) : Pass (Except String Unit) := do
  let c ← Body.get
  let created ← call (.createLoadBalancer (lbKey sc c) (lbToCreate sc c))
  match created with
  | .ok () => pure (.ok ())
  | .error e =>
    if e.isAlreadyExists then pure (.ok ())
    else pure (.error ("error during creation of LB: " ++ e.message))

def getLoadBalancerIP (sc : Scope) : Pass (Except String String) := do
  let c ← Body.get
  let got ← call (.getLoadBalancer (lbKey sc c))
  match got with
  | .error e => pure (.error e.message)
  | .ok lb =>
    if lb.address = "" then pure (.error "the LB Address was empty after its creation")
    else pure (.ok lb.address)

/-- `failureDomainsFromNodes`: by zone when every host has one, else by host name. -/
def failureDomainsFromNodes (nodes : List Node) : List FailureDomain :=
  let zone (n : Node) : String := (n.labels.lookup "topology.kubernetes.io/zone").getD ""
  let zoned := nodes.all fun n => zone n ≠ ""
  let names := nodes.map fun n => if zoned then zone n else n.name
  let topologyKey :=
    if zoned then "topology.kubernetes.io/zone" else "kubernetes.io/hostname"
  (names.dedup.insertionSort (· ≤ ·)).map fun name => ⟨name, true, topologyKey⟩

/-- `reconcileFailureDomains`; an error is only logged. -/
def reconcileFailureDomains : Pass Unit := do
  let got ← call .listNodes
  match got with
  | .error _ => pure ()
  | .ok nodes => modifyStatus fun st => { st with failureDomains := failureDomainsFromNodes nodes }

/-- The loop of `getOwnedCPHarversterMachines`: only NotFound leaves a machine out. -/
def existingInHarvester (targetNamespace : String) :
    List ObjectKey → List ObjectKey → Pass (List ObjectKey)
  | [], acc => pure acc
  | machine :: rest, acc => do
    let got ← call (.getVM ⟨targetNamespace, machine.name⟩)
    match got with
    | .error e =>
      if e.isNotFound then existingInHarvester targetNamespace rest acc
      else existingInHarvester targetNamespace rest (acc ++ [machine])
    | .ok () => existingInHarvester targetNamespace rest (acc ++ [machine])

def getOwnedCPHarversterMachines (sc : Scope) : Pass (Except String (List ObjectKey)) := do
  let listed ← call (.listMachines sc.cluster.key.name)
  match listed with
  | .error e =>
    if e.isNotFound then pure (.ok [])
    else pure (.error ("unable to list owned ControlPlane Machines: " ++ e.message))
  | .ok machines => do
    let c ← Body.get
    let owned ← existingInHarvester c.spec.targetNamespace machines []
    pure (.ok owned)

def updateCloudProviderManifests (ext : Externals) (sc : Scope)
    (cfg : UpdateCloudProviderConfig) : Pass (Except String Unit) :=
  let ref := cfg.manifestsConfigMapNamespace ++ "/" ++ cfg.manifestsConfigMapName
  let key := cfg.manifestsConfigMapKey
  if cfg.manifestsConfigMapName = "" ∨ cfg.manifestsConfigMapNamespace = "" then
    pure (.error "ManifestsConfigMapName and ManifestsConfigMapNamespace must be set")
  else do
    let configMap := ⟨cfg.manifestsConfigMapNamespace, cfg.manifestsConfigMapName⟩
    let got ← call (.getConfigMap configMap)
    match got with
    | .error e => pure (.error ("unable to get the referenced config map " ++ ref ++ ": " ++
        e.message))
    | .ok stored =>
      match stored.val.lookup key with
      | none => pure (.error ("unable to get the data key " ++ key ++
          " from the referenced config map " ++ ref ++ ": key " ++ key ++
          " not found in configmap " ++ cfg.manifestsConfigMapName))
      | some manifest => do
        let c ← Body.get
        let kubeconfig ← call (.getCloudConfigB64 sc.cluster.key.name c.spec.targetNamespace
          c.spec.server)
        match kubeconfig with
        | .error e => pure (.error ("unable to generate the kubeconfig for the cloud provider: " ++
            e))
        | .ok b64 =>
          match ext.decodeBase64 b64 with
          | .error e => pure (.error ("unable to decode the kubeconfig for the cloud provider: " ++
              e))
          | .ok bytes =>
            match ext.modifyYAMLString manifest cfg.cloudConfigCredentialsSecretName "kube-system"
                cfg.cloudConfigCredentialsSecretKey bytes with
            | .error e => pure (.error ("unable to modify the cloudConfig Manifest to include " ++
                "the B64 Kubeconfig: " ++ e))
            | .ok modified => do
              let updated ← call (.updateConfigMap configMap
                { stored with val := stored.val.insert key modified })
              match updated with
              | .error e => pure (.error ("unable to update the referenced config map " ++ ref ++
                  ": " ++ e.message))
              | .ok () => pure (.ok ())

def cloudProviderReady : Pass (Except String Unit) := do
  setCondition "CloudProviderConfigReady" ⟨.true_, "CloudProviderConfigGeneratedSuccessfully",
    "Cloud Provider Config was generated successfully"⟩
  pure (.ok ())

def reconcileCloudProviderConfig (ext : Externals) (sc : Scope) : Pass (Except String Unit) := do
  let c ← Body.get
  if c.status.conditions.isTrue "CloudProviderConfigReady" then pure (.ok ())
  else if c.spec.updateCloudProviderConfig = ⟨"", "", "", "", ""⟩ then cloudProviderReady
  else do
    let written ← updateCloudProviderManifests ext sc c.spec.updateCloudProviderConfig
    match written with
    | .error e => pure (.error e)
    | .ok () => cloudProviderReady

def fleetReady (c : Condition) : Pass Unit := setCondition "FleetIntegrationReady" c

def fleetInProgress (message : String) : Pass Unit :=
  fleetReady ⟨.false_, "FleetIntegrationInProgress", message⟩

def labelsToPropagate (owner : Owner) : List (String × String) :=
  ("cluster.x-k8s.io/cluster-name", owner.key.name) ::
    ["cni", "csi", "cloud-config"].filterMap fun key =>
      (owner.labels.lookup key).map fun val => (key, val)

/-- The labels of the Fleet cluster with the propagated ones; a missing label reads as the
empty string. -/
def propagateLabels (labels : Table String String) (ls : List (String × String)) :
    Table String String :=
  ls.foldl (fun t l => if (t.lookup l.1).getD "" = l.2 then t else t.insert l.1 l.2) labels

def propagateToFleetCluster (sc : Scope) (mgmtClusterName : String) : Pass Unit := do
  let listed ← call .listFleetClusters
  match listed with
  | .error _ => fleetInProgress "Waiting for Fleet cluster to be created"
  | .ok fleetClusters =>
    match fleetClusters.find? fun fc => fc.1 = mgmtClusterName with
    | none => fleetInProgress ("Waiting for Fleet cluster " ++ mgmtClusterName ++
        " in fleet-default")
    | some (name, fleetCluster) => do
      let labels := propagateLabels fleetCluster.val (labelsToPropagate sc.cluster)
      let ready := fleetReady ⟨.true_, "FleetIntegrationReady",
        "Fleet labels propagated to cluster " ++ name ++ " in fleet-default"⟩
      if labels = fleetCluster.val then ready
      else do
        let updated ← call (.updateFleetCluster name { fleetCluster with val := labels })
        match updated with
        | .error e => fleetReady ⟨.false_, "FleetIntegrationFailed",
            "Failed to update Fleet cluster labels: " ++ e.message⟩
        | .ok () => ready

/-- `reconcileFleetIntegration`; errors are only logged. -/
def reconcileFleetIntegration (sc : Scope) : Pass Unit := do
  let c ← Body.get
  if c.status.conditions.isTrue "FleetIntegrationReady" then pure ()
  else if sc.cluster.labels.lookup "cluster-api.cattle.io/rancher-auto-import" ≠ some "true" then
    fleetReady ⟨.true_, "FleetIntegrationNotApplicable",
      "Cluster does not have rancher-auto-import label"⟩
  else do
    let listed ← call (.listProvisioningClusters sc.cluster.key.ns)
    match listed with
    | .error _ => pure ()
    | .ok provClusters =>
      let named := provClusters.filterMap fun pc =>
        if pc.1 = sc.cluster.key.name then pc.2 else none
      match named.find? fun name => name ≠ "" with
      | none => fleetInProgress "Waiting for Turtles to create provisioning cluster"
      | some mgmtClusterName => do
        let got ← call (.getManagementCluster mgmtClusterName)
        match got with
        | .error _ => fleetInProgress ("Waiting for management cluster " ++ mgmtClusterName)
        | .ok fleetWorkspaceName =>
          if fleetWorkspaceName ≠ "" then propagateToFleetCluster sc mgmtClusterName
          else do
            let patched ← call (.patchManagementCluster mgmtClusterName)
            match patched with
            | .error e => fleetReady ⟨.false_, "FleetIntegrationFailed",
                "Failed to set fleetWorkspaceName: " ++ e.message⟩
            | .ok () => propagateToFleetCluster sc mgmtClusterName

def targetNamespaceNotReady (message : String) : Pass Unit :=
  setCondition "TargetNamespaceReady" ⟨.false_, "TargetNamespaceNotReady", message⟩

/-- The target namespace is looked up and created if missing; errors only go to the condition,
and a successful Create reports its nil error. -/
def reconcileTargetNamespace : Pass Unit := do
  setCondition "TargetNamespaceReady" ⟨.false_, "TargetNamespaceChecking",
    "Checking if target namespace exists"⟩
  let c ← Body.get
  let got ← call (.getNamespace c.spec.targetNamespace)
  match got with
  | .ok () => setCondition "TargetNamespaceReady" ⟨.true_, "TargetNamespaceReady",
      "Target namespace exists and is accessible"⟩
  | .error e =>
    if e.isNotFound then do
      let created ← call (.createNamespace c.spec.targetNamespace)
      match created with
      | .error e => targetNamespaceNotReady ("Failed to create target namespace: " ++ e.message)
      | .ok () => targetNamespaceNotReady "Unable to access target namespace: <nil>"
    else targetNamespaceNotReady ("Unable to access target namespace: " ++ e.message)

def setControlPlaneEndpoint (host : String) : Pass Unit :=
  modifySpec fun spec => { spec with controlPlaneEndpoint := ⟨host, 6443⟩ }

def placeholderIP (ext : Externals) (sc : Scope) (c : HarvesterCluster) :
    Pass (Except String String) :=
  if c.spec.loadBalancerConfig.ipamType = .pool then
    getIPFromIPPool ext sc (c.spec.targetNamespace ++ "/" ++ sc.key.lbName)
  else pure (.ok "0.0.0.0")

/-- The placeholder Service does not exist yet. An error that says it already exists is logged
and still returned. -/
def createPlaceholder (ext : Externals) (sc : Scope) : Pass Outcome := do
  let c ← Body.get
  let lbIP ← placeholderIP ext sc c
  match lbIP with
  | .error e => pure (.after requeueTimeShort, some e)
  | .ok ip => do
    let created ← call (.createService (lbKey sc c) ip)
    match created with
    | .ok () => pure (.after requeueTimeShort, none)
    | .error e =>
      if e.isAlreadyExists then pure (.after requeueTimeShort, some e.message)
      else pure (⟨true, 0⟩, some e.message)

def refreshPlaceholder (ext : Externals) (sc : Scope) (svc : Versioned Service) :
    Pass Outcome := do
  let c ← Body.get
  if c.spec.loadBalancerConfig.ipamType = .pool then do
    let newIP ← getIPFromIPPool ext sc (c.spec.targetNamespace ++ "/" ++ sc.key.lbName)
    match newIP with
    | .error e => pure (.after requeueTimeShort, some e)
    | .ok ip => do
      let updated ← call (.updateService (lbKey sc c)
        { svc with val := { svc.val with loadBalancerIP := ip } })
      match updated with
      | .error e => pure (.after requeueTimeShort,
          some ("could not update the placeholder LoadBalancer: " ++ e.message))
      | .ok () => pure (⟨true, 0⟩, none)
  else pure (.after requeueTimeShort, none)

def reconcilePlaceholder (ext : Externals) (sc : Scope) : Pass Outcome := do
  let c ← Body.get
  let existing ← call (.getService (lbKey sc c))
  match existing with
  | .error e =>
    if e.isNotFound then createPlaceholder ext sc
    else pure (.after requeueTimeMedium, some e.message)
  | .ok svc =>
    match svc.val.ingress with
    | [] => refreshPlaceholder ext sc svc
    | ip :: _ =>
      if ip = "" then refreshPlaceholder ext sc svc
      else do
        setControlPlaneEndpoint ip
        setReady true
        pure (.after 60, none)

def infrastructureNotReady (reason message : String) : Pass Unit :=
  setCondition "InfrastructureReady" ⟨.false_, reason, message⟩

def infrastructureReady : Pass Unit :=
  setCondition "InfrastructureReady" ⟨.true_, "InfrastructureReady",
    "All infrastructure components are ready"⟩

def awaitLoadBalancer (sc : Scope) : Pass Outcome := do
  let created ← createLoadBalancerIfNotExists sc
  match created with
  | .error e => do
    infrastructureNotReady "InfrastructureProvisioningFailed"
      ("Failed to create LoadBalancer: " ++ e)
    pure (.after 60, some e)
  | .ok () => do
    let got ← getLoadBalancerIP sc
    match got with
    | .error e => do
      infrastructureNotReady "InfrastructureProvisioningInProgress"
        "Waiting for LoadBalancer IP to be available"
      pure (.after requeueTimeShort, some e)
    | .ok lbIP => do
      setControlPlaneEndpoint lbIP
      setReady true
      setCondition "LoadBalancerReady" ⟨.true_, "LoadBalancerReady",
        "LoadBalancer is ready with assigned IP"⟩
      infrastructureReady
      pure (.after 60, none)

def reconcileLoadBalancer (ext : Externals) (sc : Scope) : Pass Outcome := do
  let config ← reconcileCloudProviderConfig ext sc
  match config with
  | .error e => pure (.after requeueTimeLong, some e)
  | .ok () => do
    infrastructureNotReady "InfrastructureProvisioningInProgress"
      "Infrastructure provisioning in progress"
    let c ← Body.get
    if !c.status.conditions.isTrue "LoadBalancerReady" then awaitLoadBalancer sc
    else do
      infrastructureReady
      if c.status.ready then do
        reconcileFleetIntegration sc
        pure (.empty, none)
      else pure (.empty, none)

def reconcileInfrastructure (ext : Externals) (sc : Scope) : Pass Outcome := do
  let pool ← reconcileVMIPPool sc
  match pool with
  | .error e => pure (.after requeueTimeShort, some e)
  | .ok () => do
    reconcileTargetNamespace
    reconcileFailureDomains
    let owned ← getOwnedCPHarversterMachines sc
    match owned with
    | .error e => pure (.empty, some e)
    | .ok [] => reconcilePlaceholder ext sc
    | .ok (_ :: _) => reconcileLoadBalancer ext sc

def migrateFinalizer (fs : List String) : List String :=
  removeFinalizer (addFinalizer fs clusterFinalizer) clusterFinalizerLegacy

def reconcileNormal (ext : Externals) (sc : Scope) : Pass Outcome := do
  let c ← Body.get
  if clusterFinalizerLegacy ∈ c.finalizers ∧ clusterFinalizer ∉ c.finalizers then do
    Body.modify fun c => { c with finalizers := migrateFinalizer c.finalizers }
    pure (.empty, none)
  else if clusterFinalizer ∉ c.finalizers then do
    Body.modify fun c => { c with finalizers := addFinalizer c.finalizers clusterFinalizer }
    pure (.empty, none)
  else reconcileInfrastructure ext sc

def dropFinalizers (fs : List String) : List String :=
  removeFinalizer (removeFinalizer fs clusterFinalizerLegacy) clusterFinalizer

/-- What follows a delete: an error other than NotFound ends the pass. -/
def unlessFailed (deleted : Except ApiError Unit) (rest : Pass Outcome) : Pass Outcome :=
  match deleted with
  | .ok () => rest
  | .error e => if e.isNotFound then rest else pure (.after requeueTimeLong, some e.message)

/-- The end of `ReconcileDelete`: the pool of the VMs, if the controller created it, and the
finalizers. The reference is read through a pointer that may be nil. -/
def deleteVMIPPool : Pass Outcome := do
  let c ← Body.get
  let finish : Pass Outcome := do
    Body.modify fun c => { c with finalizers := dropFinalizers c.finalizers }
    pure (.empty, none)
  if c.status.conditions.isTrue "VMIPPoolCreatedByController" then
    match c.spec.vmNetworkConfig with
    | none => Body.panic
    | some vmNetCfg => do
      let deleted ← call (.deletePool vmNetCfg.ipPoolRef)
      unlessFailed deleted do
        deleteCondition "VMIPPoolCreatedByController"
        finish
  else finish

def deleteGenerated (sc : Scope) : Pass Outcome := do
  let c ← Body.get
  let service ← call (.deleteService (lbKey sc c))
  unlessFailed service do
    let pool ← call (.deletePool sc.key.lbPoolName)
    unlessFailed pool deleteVMIPPool

def reconcileDelete (sc : Scope) : Pass Outcome := do
  let c ← Body.get
  let lb ← call (.deleteLoadBalancer (lbKey sc c))
  unlessFailed lb do
    if c.status.conditions.isTrue "CustomIPPoolCreated" then do
      let pool ← call (.deletePool c.spec.loadBalancerConfig.ipPoolRef)
      unlessFailed pool do
        deleteCondition "CustomIPPoolCreated"
        deleteGenerated sc
    else deleteGenerated sc

/-- `Reconcile` between the creation of the patch helper and the deferred function. -/
def reconcileBody (ext : Externals) (k : ObjectKey) : Pass Outcome := do
  let owner ← call .getOwnerCluster
  match owner with
  | .error e => pure (.empty, some e.message)
  | .ok none => pure (.empty, none)
  | .ok (some clusterOwner) => do
    let c ← Body.get
    let paused ← call (.ensurePausedCondition clusterOwner (c.status.conditions.lookup "Paused"))
    if paused.err ≠ none ∨ paused.isPaused ∨ paused.requeue then do
      recordPaused paused
      pure (.empty, paused.err)
    else do
      let config ← reconcileHarvesterConfig ext
      match config with
      | .error e => pure (.after requeueTimeLong, some e)
      | .ok kubeconfig =>
        match ext.newHarvesterClient kubeconfig with
        | .error e => pure (.after requeueTimeLong, some e)
        | .ok () => do
          let c ← Body.get
          let sc : Scope := ⟨k, clusterOwner⟩
          if c.deleting then reconcileDelete sc else reconcileNormal ext sc

def send (r : Req) : Prog Req Resp (Resp r) := Prog.request r

def sendConditions (before after : HarvesterCluster) : Prog Req Resp (Option String) :=
  if Conditions.changed before.status.conditions after.status.conditions = [] then pure none
  else do
    let out ← send (.patchConditions before.status.conditions after.status.conditions)
    pure (errorOf out)

def sendObject (before after : HarvesterCluster) : Prog Req Resp (Option String) :=
  if before.finalizers = after.finalizers ∧ before.spec = after.spec then pure none
  else do
    let out ← send (.patchObject (.between before after))
    pure (errorOf out)

/-- A status patch that finds an object gone with its last finalizer is no error. -/
def sendStatus (before after : HarvesterCluster) : Prog Req Resp (Option String) :=
  if before.status = after.status then pure none
  else do
    let out ← send (.patchStatus (.between before.status after.status))
    match out with
    | .ok () => pure none
    | .error e =>
      if e.isNotFound ∧ after.deleting ∧ after.finalizers = [] then pure none
      else pure (some e.message)

/-- `patchHelper.Patch`: conditions first, then metadata and spec, then the status; each part is
sent only if something in it changed. -/
def patchHelper (before after : HarvesterCluster) : Prog Req Resp (Option String) := do
  let e₁ ← sendConditions before after
  let e₂ ← sendObject before after
  let e₃ ← sendStatus before after
  pure (e₁.or (e₂.or e₃))

def mirrorReady (c : HarvesterCluster) : HarvesterCluster :=
  { c with status := { c.status with provisioned := c.status.ready } }

/-- `Reconcile` of an object that was read. The deferred function runs after a panic as well, and
an error of its patch is only logged. -/
def reconcileRead (ext : Externals) (k : ObjectKey) (c : HarvesterCluster) :
    Prog Req Resp Outcome := do
  let out ← reconcileBody ext k c
  let _ ← patchHelper c (mirrorReady out.2)
  match out.1 with
  | some out => pure out
  | none => pure (.empty, some "panic")

def reconcile (ext : Externals) (k : ObjectKey) : Prog Req Resp Outcome := do
  let got ← send .getCluster
  match got with
  | .error e => if e.isNotFound then pure (.empty, none) else pure (.empty, some e.message)
  | .ok c => reconcileRead ext k c

end Caphv.Cluster
