import Caphv.ClusterController

namespace Caphv.Cluster

/-- The responses a pass has had so far, as far as its later requests depend on them. -/
structure View where
  cluster : Option HarvesterCluster
  /-- The pools whose Create was answered with success. -/
  created : List String
  /-- The pools that were deleted or found gone. -/
  removed : List String
  /-- The load balancer was deleted or found gone. -/
  lbRemoved : Bool
  /-- The patch of the conditions was sent. -/
  sent : Bool
  /-- Some patch of the cluster was sent. -/
  patching : Bool

def View.fresh : View := ⟨none, [], [], false, false, false⟩

def View.next (v : View) : (r : Req) → Resp r → View
  | .getCluster, .ok c => { v with cluster := some c }
  | .createPool n _, .ok _ => { v with created := n :: v.created }
  | .deletePool n, x => if gone x then { v with removed := n :: v.removed } else v
  | .deleteLoadBalancer _, x => if gone x then { v with lbRemoved := true } else v
  | .patchConditions _ _, _ => { v with sent := true, patching := true }
  | .patchObject _, _ => { v with patching := true }
  | .patchStatus _, _ => { v with patching := true }
  | _, _ => v

/-- The cluster that a pass which had read `old` has read with one more response. -/
def readCluster (old : Option HarvesterCluster) : (r : Req) → Resp r → Option HarvesterCluster
  | .getCluster, .ok c => some c
  | _, _ => old

theorem readCluster_of_ne {r : Req} (hr : r ≠ .getCluster) (old : Option HarvesterCluster)
    (x : Resp r) : readCluster old r x = old := by
  cases r with
  | getCluster => exact absurd rfl hr
  | _ => rfl

theorem View.cluster_next (v : View) (r : Req) (x : Resp r) :
    (v.next r x).cluster = readCluster v.cluster r x := by
  cases r with
  | getCluster | createPool => cases x <;> rfl
  | deletePool | deleteLoadBalancer =>
    unfold View.next
    dsimp only
    split_ifs <;> rfl
  | _ => rfl

theorem View.readCluster_eq {old : Option HarvesterCluster} {v : View} (h : old = v.cluster)
    (r : Req) (x : Resp r) : readCluster old r x = (v.next r x).cluster := by
  rw [v.cluster_next, h]

/-- The cluster controller: every HarvesterCluster has at most one pass under way. -/
def system (ext : Externals) : Controller ObjectKey Req Resp Answer World View Env where
  program k := do
    let _ ← reconcile ext k
    pure ()
  exec := exec
  next := View.next
  fresh := .fresh
  env e w := w.env e

abbrev ClusterState := State ObjectKey Req Resp World View

abbrev ClusterAction := Action ObjectKey Req Answer Env

abbrev ClusterEvent := Event ObjectKey Req Answer Env

def vmPoolOwned (cs : Conditions) : Bool := cs.isTrue "VMIPPoolCreatedByController"

def lbPoolOwned (cs : Conditions) : Bool := cs.isTrue "CustomIPPoolCreated"

def vmPoolRef (c : HarvesterCluster) : Option String :=
  c.spec.vmNetworkConfig.map VMNetworkConfig.ipPoolRef

/-- The pools that a deletion may delete. -/
inductive MayDelete (k : ObjectKey) (c : HarvesterCluster) : String → Prop where
  | generated : MayDelete k c k.lbPoolName
  | custom (owned : lbPoolOwned c.status.conditions = true) :
      MayDelete k c c.spec.loadBalancerConfig.ipPoolRef
  | vm {ref : String} (owned : vmPoolOwned c.status.conditions = true)
      (ref_eq : vmPoolRef c = some ref) : MayDelete k c ref

namespace View

variable (v : View) (k : ObjectKey) (c : HarvesterCluster)

structure Normal : Prop where
  cluster : v.cluster = some c
  alive : c.deleting = false
  protected_ : clusterFinalizer ∈ c.finalizers

structure Deleting : Prop where
  cluster : v.cluster = some c
  deleting : c.deleting = true

def VMPoolRemoved : Prop := ∃ ref, vmPoolRef c = some ref ∧ ref ∈ v.removed

/-- The conditions that a pass may write over those it read: the record of a created pool stays
until the pool is gone, and a pool that was just created is recorded. -/
structure ConditionsStep (after : Conditions) : Prop where
  kept : vmPoolOwned c.status.conditions = true →
    vmPoolOwned after = true ∨ c.deleting = true ∧ v.VMPoolRemoved c
  recorded : k.vmPoolName ∈ v.created →
    k.vmPoolName = k.lbPoolName ∨ vmPoolOwned after = true

/-- The finalizers a pass may write over those it read. -/
inductive FinalizerStep : List String → Prop where
  | keep : FinalizerStep c.finalizers
  | migrate (new : clusterFinalizer ∉ c.finalizers) :
      FinalizerStep (migrateFinalizer c.finalizers)
  | add (new : clusterFinalizer ∉ c.finalizers) :
      FinalizerStep (addFinalizer c.finalizers clusterFinalizer)
  | drop (deleting : v.Deleting c) (lb : v.lbRemoved = true)
      (generated : k.lbPoolName ∈ v.removed)
      (vm : vmPoolOwned c.status.conditions = true → v.VMPoolRemoved c) :
      FinalizerStep (dropFinalizers c.finalizers)

/-- A pass that ends has sent the record of the pool that it created. -/
def Done : Prop :=
  k.vmPoolName ∈ v.created → k.vmPoolName = k.lbPoolName ∨ v.sent = true ∨
    ∃ c, v.cluster = some c ∧ vmPoolOwned c.status.conditions = true

end View

/-- The requests that a pass of cluster `k` may issue with what it has seen. -/
def Guard (k : ObjectKey) (v : View) : Req → Prop
  | .getCluster => v.cluster = none
  | .createPool n _ => ∃ c, v.Normal c ∧ v.sent = false ∧ (n = k.lbPoolName ∨ n = k.vmPoolName)
  | .updatePool _ _ => ∃ c, v.Normal c
  | .deletePool n => ∃ c, v.Deleting c ∧ MayDelete k c n
  | .deleteLoadBalancer n => ∃ c, v.Deleting c ∧ n = ⟨c.spec.targetNamespace, k.lbName⟩
  | .patchConditions before after => ∃ c, v.cluster = some c ∧ v.sent = false ∧
      before = c.status.conditions ∧ v.ConditionsStep k c after
  | .patchObject p => ∃ c c', v.cluster = some c ∧ p = .between c c' ∧
      v.FinalizerStep k c c'.finalizers ∧
      (vmPoolRef c' = vmPoolRef c ∨ vmPoolRef c' = some k.vmPoolName)
  | .patchStatus _ => ∃ c, v.cluster = some c
  | _ => True

def contract : Contract ObjectKey Req View := ⟨Guard, fun k v => v.Done k⟩

end Caphv.Cluster
