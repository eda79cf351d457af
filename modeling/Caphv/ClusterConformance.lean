import Caphv.ClusterProtocol
import Caphv.ClusterRoutines

namespace Caphv.Cluster

abbrev Obeys {α : Type} (k : ObjectKey) (v : View) (b : Pass α) (s : HarvesterCluster)
    (Q : View → Option α → HarvesterCluster → Prop) : Prop :=
  Body.Conforms (Guard k) View.next v b s Q

def lbReady (cs : Conditions) : Bool := cs.isTrue "LoadBalancerReady"

/-- A condition that a part of a pass may set: not the records of the created pools and, before
the load balancer is looked at, not the one that says it is ready. -/
def settable (late : Bool) (type : String) : Bool :=
  type ≠ "VMIPPoolCreatedByController" && type ≠ "CustomIPPoolCreated" &&
    (type ≠ "LoadBalancerReady" || late)

/-- What the pass reads when it looks at the load balancer is as it was read. -/
structure Frame (c s : HarvesterCluster) : Prop where
  ready : s.status.ready = c.status.ready
  endpoint : s.spec.controlPlaneEndpoint = c.spec.controlPlaneEndpoint
  lbReady : lbReady s.status.conditions = lbReady c.status.conditions

structure Intact (v : View) (c s : HarvesterCluster) : Prop where
  uncreated : v.created = []
  targetNamespace : s.spec.targetNamespace = c.spec.targetNamespace
  lbRef : s.spec.loadBalancerConfig.ipPoolRef = c.spec.loadBalancerConfig.ipPoolRef
  lbOwned : lbPoolOwned s.status.conditions = lbPoolOwned c.status.conditions
  vmRef : vmPoolRef s = vmPoolRef c
  vmOwned : vmPoolOwned s.status.conditions = vmPoolOwned c.status.conditions

/-- A pass between its first read and its deferred patch: `c` was read, `s` is in memory. -/
structure Running (k : ObjectKey) (late : Bool) (v : View) (c s : HarvesterCluster) : Prop where
  cluster : v.cluster = some c
  unsent : v.sent = false ∧ v.patching = false
  deleting : s.deleting = c.deleting
  finalizers : s.finalizers = c.finalizers
  ref : vmPoolRef s = vmPoolRef c ∨ vmPoolRef s = some k.vmPoolName
  kept : vmPoolOwned c.status.conditions = true → vmPoolOwned s.status.conditions = true
  recorded : k.vmPoolName ∈ v.created →
    k.vmPoolName = k.lbPoolName ∨ vmPoolOwned s.status.conditions = true
  intact : c.deleting = true → Intact v c s
  early : late = false → Frame c s

/-- A pass that has just read the cluster. -/
theorem Running.first {k : ObjectKey} {late : Bool} {v : View} {c : HarvesterCluster}
    (hc : v.cluster = some c) (hcreated : v.created = [])
    (hunsent : v.sent = false ∧ v.patching = false) : Running k late v c c := by
  refine ⟨hc, hunsent, rfl, rfl, Or.inl rfl, id, fun hn => ?_, fun _ => ⟨hcreated, rfl, rfl, rfl,
    rfl, rfl⟩, fun _ => ⟨rfl, rfl, rfl⟩⟩
  rw [hcreated] at hn
  cases hn

theorem Running.late {k : ObjectKey} {v : View} {c s : HarvesterCluster}
    (h : Running k false v c s) : Running k true v c s :=
  ⟨h.cluster, h.unsent, h.deleting, h.finalizers, h.ref, h.kept, h.recorded, h.intact, nofun⟩

def Maintains {α : Type} (k : ObjectKey) (late : Bool) (c : HarvesterCluster) (b : Pass α) :
    Prop :=
  Body.Maintains (Guard k) View.next (fun v s => Running k late v c s) b

/-- The requests that the guard does not restrict and that leave the view alone. -/
def Req.free : Req → Bool
  | .getCluster => false
  | .createPool _ _ => false
  | .updatePool _ _ => false
  | .deletePool _ => false
  | .deleteLoadBalancer _ => false
  | .patchConditions _ _ => false
  | .patchObject _ => false
  | .patchStatus _ => false
  | _ => true

section Rules

variable {k : ObjectKey} {late : Bool} {c s : HarvesterCluster} {v : View} {α β : Type}

theorem Req.free.guard {r : Req} (h : r.free = true) : Guard k v r := by
  cases r with
  | getCluster => cases h
  | createPool n spec => cases h
  | updatePool n p => cases h
  | deletePool n => cases h
  | deleteLoadBalancer n => cases h
  | patchConditions b a => cases h
  | patchObject p => cases h
  | patchStatus p => cases h
  | _ => trivial

theorem Req.free.next {r : Req} (h : r.free = true) (x : Resp r) : v.next r x = v := by
  cases r with
  | getCluster => cases h
  | createPool n spec => cases h
  | updatePool n p => cases h
  | deletePool n => cases h
  | deleteLoadBalancer n => cases h
  | patchConditions b a => cases h
  | patchObject p => cases h
  | patchStatus p => cases h
  | _ => rfl

/-- A reference that is set is there if there is a network configuration. -/
theorem vmPoolRef_withVMPoolRef (ref : String) (s : HarvesterCluster) :
    vmPoolRef { s with spec := { s.spec with
      vmNetworkConfig := withVMPoolRef ref s.spec.vmNetworkConfig } } = vmPoolRef s ∨
    vmPoolRef { s with spec := { s.spec with
      vmNetworkConfig := withVMPoolRef ref s.spec.vmNetworkConfig } } = some ref := by
  unfold vmPoolRef withVMPoolRef
  cases s.spec.vmNetworkConfig with
  | none => exact Or.inl rfl
  | some cfg => exact Or.inr rfl

theorem ne_of_settable {late : Bool} {type : String} (h : settable late type = true) :
    "VMIPPoolCreatedByController" ≠ type ∧ "CustomIPPoolCreated" ≠ type ∧
      (late = false → "LoadBalancerReady" ≠ type) := by
  simp only [settable, Bool.and_eq_true, Bool.or_eq_true, decide_eq_true_eq] at h
  obtain ⟨⟨hvm, hlb⟩, hready⟩ := h
  refine ⟨Ne.symm hvm, Ne.symm hlb, fun hl => ?_⟩
  rcases hready with hready | hl'
  · exact Ne.symm hready
  · rw [hl] at hl'
    cases hl'

theorem not_deleting (hd : c.deleting = false) {P : Prop} (h : c.deleting = true) : P := by
  rw [hd] at h
  cases h

namespace Maintains

theorem pure (a : α) : Maintains k late c (Pure.pure a : Pass α) := Body.Maintains.pure a

theorem bind {b : Pass α} {f : α → Pass β} (hb : Maintains k late c b)
    (hf : ∀ a, Maintains k late c (f a)) : Maintains k late c (b >>= f) := Body.Maintains.bind hb hf

theorem call {r : Req} (hr : r.free = true) : Maintains k late c (Cluster.call r) := by
  refine fun v s h => ⟨Req.free.guard hr, fun x => ?_⟩
  rw [Req.free.next hr x]
  exact h

/-- A write to the status that leaves the record of the created VM pool alone, that of the load
balancer's in a deletion, and the frame before the load balancer is looked at. -/
theorem modifyStatus {f : HarvesterClusterStatus → HarvesterClusterStatus}
    (hvm : ∀ st, vmPoolOwned (f st).conditions = vmPoolOwned st.conditions)
    (hlb : c.deleting = true →
      ∀ st, lbPoolOwned (f st).conditions = lbPoolOwned st.conditions)
    (hearly : late = false → ∀ st, (f st).ready = st.ready ∧
      lbReady (f st).conditions = lbReady st.conditions) :
    Maintains k late c (Cluster.modifyStatus f) := fun _ s h =>
  { cluster := h.cluster
    unsent := h.unsent
    deleting := h.deleting
    finalizers := h.finalizers
    ref := h.ref
    kept := fun ho => (hvm s.status).trans (h.kept ho)
    recorded := fun hc => (h.recorded hc).imp_right fun ho => (hvm s.status).trans ho
    intact := fun hd =>
      have hi := h.intact hd
      ⟨hi.uncreated, hi.targetNamespace, hi.lbRef, (hlb hd s.status).trans hi.lbOwned, hi.vmRef,
        (hvm s.status).trans hi.vmOwned⟩
    early := fun hl =>
      have hf := h.early hl
      ⟨(hearly hl s.status).1.trans hf.ready, hf.endpoint,
        (hearly hl s.status).2.trans hf.lbReady⟩ }

/-- A write to the spec that leaves the reference to the pool of the VMs alone, what names the
load balancer and its pool in a deletion, and the endpoint before the load balancer is looked
at. -/
theorem modifySpec {f : HarvesterClusterSpec → HarvesterClusterSpec}
    (hvm : ∀ spec, (f spec).vmNetworkConfig = spec.vmNetworkConfig)
    (hlb : c.deleting = true → ∀ spec, (f spec).targetNamespace = spec.targetNamespace ∧
      (f spec).loadBalancerConfig.ipPoolRef = spec.loadBalancerConfig.ipPoolRef)
    (hearly : late = false →
      ∀ spec, (f spec).controlPlaneEndpoint = spec.controlPlaneEndpoint) :
    Maintains k late c (Cluster.modifySpec f) := fun v s h => by
  have hs : vmPoolRef { s with spec := f s.spec } = vmPoolRef s :=
    congrArg (Option.map VMNetworkConfig.ipPoolRef) (hvm s.spec)
  refine ⟨h.cluster, h.unsent, h.deleting, h.finalizers, ?_, h.kept, h.recorded, fun hd => ?_,
    fun hl => ?_⟩
  · rw [hs]
    exact h.ref
  · have hi := h.intact hd
    exact ⟨hi.uncreated, (hlb hd s.spec).1.trans hi.targetNamespace,
      (hlb hd s.spec).2.trans hi.lbRef, hi.lbOwned, hs.trans hi.vmRef, hi.vmOwned⟩
  · have hf := h.early hl
    exact ⟨hf.ready, (hearly hl s.spec).trans hf.endpoint, hf.lbReady⟩

theorem setCondition {type : String} (cond : Condition) (ht : settable late type = true) :
    Maintains k late c (Cluster.setCondition type cond) := by
  obtain ⟨hvm, hlb, hready⟩ := ne_of_settable ht
  refine .modifyStatus (fun st => ?_) (fun _ st => ?_) fun hl st => ⟨rfl, ?_⟩
  · exact Conditions.isTrue_lookup (by rw [Conditions.lookup_set, if_neg hvm])
  · exact Conditions.isTrue_lookup (by rw [Conditions.lookup_set, if_neg hlb])
  · exact Conditions.isTrue_lookup (by rw [Conditions.lookup_set, if_neg (hready hl)])

theorem recordPaused (paused : PausedResult) :
    Maintains k late c (Cluster.recordPaused paused) := by
  unfold Cluster.recordPaused
  split
  · exact .pure ()
  · exact .setCondition _ (by cases late <;> rfl)

theorem appendCustomPoolCreated (hd : c.deleting = false) (cond : Condition) :
    Maintains k late c (Cluster.appendCondition "CustomIPPoolCreated" cond) := by
  refine .modifyStatus (fun _ => ?_) (not_deleting hd) fun _ _ => ⟨rfl, ?_⟩
  · exact Conditions.isTrue_lookup (by rw [Table.lookup_insert_eq, if_neg (by decide)])
  · exact Conditions.isTrue_lookup (by rw [Table.lookup_insert_eq, if_neg (by decide)])

theorem setReady (ready : Bool) : Maintains k true c (Cluster.setReady ready) :=
  .modifyStatus (fun _ => rfl) (fun _ _ => rfl) nofun

/-- The reference is set to the generated name. -/
theorem setVMPoolRef (hd : c.deleting = false) :
    Maintains k late c (Cluster.setVMPoolRef k.vmPoolName) := fun v s h => by
  refine ⟨h.cluster, h.unsent, h.deleting, h.finalizers, ?_, h.kept, h.recorded,
    not_deleting hd, fun hl => ⟨(h.early hl).ready, (h.early hl).endpoint, (h.early hl).lbReady⟩⟩
  rcases vmPoolRef_withVMPoolRef k.vmPoolName s with hs | hs
  · rw [hs]
    exact h.ref
  · exact Or.inr hs

end Maintains

end Rules

section Normal

variable {ext : Externals} {sc : Scope} {late : Bool} {c s : HarvesterCluster} {v : View}

/-- Only a failed connection touches the readiness. -/
theorem obeys_reconcileHarvesterConfig {k : ObjectKey} (h : Running k false v c s) :
    Obeys k v (reconcileHarvesterConfig ext) s fun v' out s' =>
      Running k true v' c s' ∧ ((∃ kubeconfig, out = some (.ok kubeconfig)) →
        Running k false v' c s') := by
  have hnot : ∀ {late} reason message, Maintains k late c (connectionNotReady reason message) :=
    fun _ _ => .setCondition _ rfl
  -- The two ways to end with an error.
  have hfail : ∀ {v s} reason message (e : String), Running k false v c s →
      Obeys k v (connectionNotReady reason message >>= fun _ => pure (Except.error e)) s
        fun v' out s' => Running k true v' c s' ∧
          ((∃ kubeconfig : String, out = some (.ok kubeconfig)) → Running k false v' c s') :=
    fun reason message e h => ⟨hnot reason message _ _ h.late, fun ⟨_, ho⟩ => nomatch ho⟩
  have hunready : ∀ {v s} reason message (e : String), Running k false v c s →
      Obeys k v (setReady false >>= fun _ => connectionNotReady reason message >>= fun _ =>
        pure (Except.error e)) s fun v' out s' => Running k true v' c s' ∧
          ((∃ kubeconfig : String, out = some (.ok kubeconfig)) → Running k false v' c s') :=
    fun reason message e h =>
      ⟨(Maintains.bind (.setReady _) fun _ => hnot reason message) _ _ h.late,
        fun ⟨_, ho⟩ => nomatch ho⟩
  have h₁ := hnot "HarvesterConnectionInProgress" "Attempting to connect to Harvester" v s h
  unfold reconcileHarvesterConfig
  refine .modify_bind (.get_bind (.request_bind trivial fun secret => ?_))
  cases secret with
  | error e => exact hunready _ _ _ h₁
  | ok kubeconfig =>
    dsimp only
    split
    · exact hunready _ _ _ h₁
    · rename_i server _
      have h₂ := Maintains.modifySpec (f := fun spec => { spec with server := server })
        (fun _ => rfl) (fun _ _ => ⟨rfl, rfl⟩) (fun _ _ => rfl) v _ h₁
      refine .modify_bind ?_
      split
      · exact hfail _ _ _ h₂
      · split
        · exact hfail _ _ _ h₂
        · refine .request_bind trivial fun deployment => ?_
          cases deployment with
          | error e => exact hfail _ _ _ h₂
          | ok conditions =>
            dsimp only
            split_ifs
            · exact hfail _ _ _ h₂
            · have hset : Maintains k false c (setCondition "HarvesterConnectionReady"
                  ⟨.true_, "HarvesterConnectionReady",
                    "Successfully connected and authenticated to Harvester API"⟩) :=
                .setCondition _ rfl
              have h₃ := hset v _ h₂
              exact ⟨h₃.late, fun _ => h₃⟩

theorem running_indifferent (k : ObjectKey) (late : Bool) (c : HarvesterCluster) :
    Indifferent (Guard k) View.next (fun v s => Running k late v c s) where
  call {r} hr := Maintains.call (by cases r <;> first | rfl | cases hr)
  report {type} htype cond := by
    have hsettable : ∀ type ∈ reports, settable late type = true := by
      cases late <;> decide
    exact Maintains.setCondition cond (hsettable type htype)
  server _ := Maintains.modifySpec (fun _ => rfl) (fun _ _ => ⟨rfl, rfl⟩) fun _ _ => rfl
  failureDomains _ := Maintains.modifyStatus (fun _ => rfl) (fun _ _ => rfl) fun _ _ => ⟨rfl, rfl⟩

/-- A pool that was created is recorded in the conditions at once. -/
theorem running_createVMIPPool (hd : c.deleting = false)
    (hf : clusterFinalizer ∈ c.finalizers) (p : IpPoolSpec) :
    Maintains sc.key late c (createVMIPPool sc p) := by
  intro v s h
  refine .request_bind ⟨c, ⟨h.cluster, hd, hf⟩, h.unsent.1, Or.inr rfl⟩ fun created => ?_
  cases created with
  | error e =>
    dsimp only
    split_ifs
    · refine (Maintains.bind (.call rfl) fun got => ?_) v s h
      cases got with
      | error e => exact .pure _
      | ok pool => exact .bind (.setVMPoolRef hd) fun _ => .pure _
    · exact (Maintains.bind (.setCondition _ rfl) fun _ => .pure _) v s h
  | ok pool =>
    have h₁ := Maintains.setVMPoolRef hd v s h
    have howned : ∀ (cs : Conditions) (message : String), vmPoolOwned
        (cs.set "VMIPPoolCreatedByController" ⟨.true_, "VMIPPoolCreatedByController", message⟩) =
          true := fun cs message =>
      (Conditions.isTrue_iff _ _).mpr ⟨_, (Conditions.lookup_set _ _ _ _).trans (if_pos rfl), rfl⟩
    -- The view with the pool created and the memory with its record fit together again.
    refine .modify_bind (.modify_bind ?_)
    refine (Maintains.bind (.setCondition _ rfl) fun _ => .pure _) _ _
      ⟨h₁.cluster, h₁.unsent, h₁.deleting, h₁.finalizers, h₁.ref, fun _ => howned _ _,
        fun _ => Or.inr (howned _ _), not_deleting hd, fun hl => ?_⟩
    have hf := h₁.early hl
    refine ⟨hf.ready, hf.endpoint, Eq.trans (Conditions.isTrue_lookup ?_) hf.lbReady⟩
    rw [Conditions.lookup_set, if_neg (by decide)]

theorem running_reconcileVMIPPool (hd : c.deleting = false)
    (hf : clusterFinalizer ∈ c.finalizers) : Maintains sc.key late c (reconcileVMIPPool sc) :=
  maintains_reconcileVMIPPool (running_indifferent sc.key late c) (Maintains.setVMPoolRef hd)
    (running_createVMIPPool hd hf)

/-- The pool of the load balancer has its own name and its own record. -/
theorem running_createIPPoolIfNotExists (hd : c.deleting = false)
    (hf : clusterFinalizer ∈ c.finalizers) :
    Maintains sc.key true c (createIPPoolIfNotExists sc) := by
  intro v s h
  unfold createIPPoolIfNotExists
  -- Left in place, the generated name is evaluated where the code compares it with "".
  generalize hname : sc.key.lbPoolName = name
  have hguard : Guard sc.key v (.createPool name
      (lbPoolToCreate sc.key s.spec.loadBalancerConfig.ipPool)) :=
    ⟨c, ⟨h.cluster, hd, hf⟩, h.unsent.1, Or.inl hname.symm⟩
  refine .get_bind (.request_bind hguard fun created => ?_)
  cases created with
  | error e =>
    dsimp only
    split_ifs
    · refine (Maintains.bind (.call rfl) fun got => ?_) v s h
      cases got <;> exact .pure _
    · exact (Maintains.bind (.appendCustomPoolCreated hd _) fun _ =>
        .bind (.setReady _) fun _ => .pure _) v s h
  | ok pool =>
    have h' : Running sc.key true { v with created := name :: v.created } c s := by
      refine ⟨h.cluster, h.unsent, h.deleting, h.finalizers, h.ref, h.kept, fun hc => ?_,
        not_deleting hd, nofun⟩
      rcases List.mem_cons.mp hc with heq | hc
      · exact Or.inl (heq.trans hname.symm)
      · exact h.recorded hc
    dsimp only
    split_ifs
    · exact h'
    · exact (Maintains.bind (.appendCustomPoolCreated hd _) fun _ =>
        .bind (.setReady _) fun _ => .pure _) _ s h'

theorem running_setControlPlaneEndpoint (k : ObjectKey) (host : String) :
    Maintains k true c (setControlPlaneEndpoint host) :=
  .modifySpec (fun _ => rfl) (fun _ _ => ⟨rfl, rfl⟩) nofun

theorem running_reconcilePlaceholder (hd : c.deleting = false)
    (hf : clusterFinalizer ∈ c.finalizers) :
    Maintains sc.key true c (reconcilePlaceholder ext sc) := by
  have hupdate : ∀ name pool, Maintains sc.key true c (call (.updatePool name pool)) :=
    fun _ _ _ _ h => ⟨⟨c, h.cluster, hd, hf⟩, fun _ => h⟩
  have href : ∀ name, Maintains sc.key true c (setLBPoolRef name) :=
    fun _ => .modifySpec (fun _ => rfl) (not_deleting hd) nofun
  exact maintains_reconcilePlaceholder (running_indifferent _ _ _)
    (maintains_getIPFromIPPool (running_indifferent _ _ _)
      (running_createIPPoolIfNotExists hd hf) href hupdate)
    (running_setControlPlaneEndpoint _) (Maintains.setReady _)

theorem running_reconcileCloudProviderConfig (k : ObjectKey) :
    Maintains k late c (reconcileCloudProviderConfig ext sc) :=
  maintains_reconcileCloudProviderConfig (running_indifferent k late c)
    (fun _ _ => Maintains.call rfl) fun cond => Maintains.setCondition cond (by cases late <;> rfl)

theorem running_reconcileFleetIntegration (k : ObjectKey) :
    Maintains k late c (reconcileFleetIntegration sc) :=
  maintains_reconcileFleetIntegration (running_indifferent k late c)
    (fun _ _ => Maintains.call rfl) fun cond => Maintains.setCondition cond (by cases late <;> rfl)

theorem running_reconcileInfrastructure (hd : c.deleting = false)
    (hf : clusterFinalizer ∈ c.finalizers) :
    Maintains sc.key true c (reconcileInfrastructure ext sc) := by
  have hawait : Maintains sc.key true c (awaitLoadBalancer sc) :=
    maintains_awaitLoadBalancer (running_indifferent _ _ _) (running_setControlPlaneEndpoint _)
      (Maintains.setReady _) fun cond => Maintains.setCondition cond rfl
  exact maintains_reconcileInfrastructure (running_indifferent _ _ _)
    (running_reconcileVMIPPool hd hf) (running_reconcilePlaceholder hd hf)
    (maintains_reconcileLoadBalancer (running_indifferent _ _ _)
      (running_reconcileCloudProviderConfig _) hawait (running_reconcileFleetIntegration _))

end Normal

structure Ended (k : ObjectKey) (v : View) (c s : HarvesterCluster) : Prop where
  cluster : v.cluster = some c
  unsent : v.sent = false ∧ v.patching = false
  conditions : v.ConditionsStep k c s.status.conditions
  finalizers : v.FinalizerStep k c s.finalizers
  ref : vmPoolRef s = vmPoolRef c ∨ vmPoolRef s = some k.vmPoolName

theorem Running.ended {k : ObjectKey} {late : Bool} {v : View} {c s : HarvesterCluster}
    (h : Running k late v c s) : Ended k v c s :=
  ⟨h.cluster, h.unsent, ⟨fun ho => Or.inl (h.kept ho), h.recorded⟩,
    h.finalizers ▸ View.FinalizerStep.keep, h.ref⟩

section Delete

variable {k : ObjectKey} {sc : Scope} {c s : HarvesterCluster} {v : View}

structure Leaving (v : View) (c s : HarvesterCluster) : Prop where
  phase : v.Deleting c
  unsent : v.sent = false ∧ v.patching = false
  uncreated : v.created = []
  finalizers : s.finalizers = c.finalizers
  targetNamespace : s.spec.targetNamespace = c.spec.targetNamespace
  ref : vmPoolRef s = vmPoolRef c
  owned : vmPoolOwned s.status.conditions = vmPoolOwned c.status.conditions

theorem Leaving.uncreated_mem (h : Leaving v c s) {n : String} {P : Prop} (hn : n ∈ v.created) :
    P := by
  rw [h.uncreated] at hn
  cases hn

theorem Leaving.ended (h : Leaving v c s) : Ended k v c s :=
  ⟨h.phase.cluster, h.unsent, ⟨fun ho => Or.inl (h.owned.trans ho), h.uncreated_mem⟩,
    h.finalizers ▸ View.FinalizerStep.keep, Or.inl h.ref⟩

theorem Leaving.deletePool (h : Leaving v c s) (n : String) (x : Except ApiError Unit) :
    Leaving (v.next (.deletePool n) x) c s := by
  unfold View.next
  dsimp only
  split_ifs
  · exact ⟨⟨h.phase.cluster, h.phase.deleting⟩, h.unsent, h.uncreated, h.finalizers,
      h.targetNamespace, h.ref, h.owned⟩
  · exact h

theorem Leaving.deleteLoadBalancer (h : Leaving v c s) (n : NamespacedName)
    (x : Except ApiError Unit) : Leaving (v.next (.deleteLoadBalancer n) x) c s := by
  unfold View.next
  dsimp only
  split_ifs
  · exact ⟨⟨h.phase.cluster, h.phase.deleting⟩, h.unsent, h.uncreated, h.finalizers,
      h.targetNamespace, h.ref, h.owned⟩
  · exact h

theorem lbRemoved_deletePool (n : String) (x : Except ApiError Unit) :
    (v.next (.deletePool n) x).lbRemoved = v.lbRemoved := by
  unfold View.next
  dsimp only
  split_ifs <;> rfl

theorem removed_deletePool {n : String} {x : Except ApiError Unit} (hx : gone x = true) :
    (v.next (.deletePool n) x).removed = n :: v.removed := by
  unfold View.next
  dsimp only
  rw [if_pos hx]

theorem lbRemoved_deleteLoadBalancer {n : NamespacedName} {x : Except ApiError Unit}
    (hx : gone x = true) : (v.next (.deleteLoadBalancer n) x).lbRemoved = true := by
  unfold View.next
  dsimp only
  rw [if_pos hx]

/-- After a delete the pass goes on when nothing is left of the object. -/
theorem obeys_unlessFailed {x : Except ApiError Unit} {rest : Pass Outcome}
    {Q : View → Option Outcome → HarvesterCluster → Prop} (hfail : ∀ out, Q v (some out) s)
    (hrest : gone x = true → Obeys k v rest s Q) : Obeys k v (unlessFailed x rest) s Q := by
  unfold unlessFailed
  cases x with
  | ok u => exact hrest rfl
  | error e =>
    dsimp only
    split_ifs with he
    · exact hrest he
    · exact hfail _

theorem obeys_deleteVMIPPool (h : Leaving v c s) (hlb : v.lbRemoved = true)
    (hgen : k.lbPoolName ∈ v.removed) :
    Obeys k v deleteVMIPPool s fun v' _ s' => Ended k v' c s' := by
  unfold deleteVMIPPool
  refine .get_bind ?_
  dsimp only
  split_ifs with ho
  · cases hcfg : s.spec.vmNetworkConfig with
    | none => exact h.ended
    | some cfg =>
      have howned : vmPoolOwned c.status.conditions = true := h.owned.symm.trans ho
      have href : vmPoolRef c = some cfg.ipPoolRef := by
        rw [← h.ref, vmPoolRef, hcfg]
        rfl
      refine .request_bind ⟨c, h.phase, .vm howned href⟩ fun deleted => ?_
      have h' := h.deletePool cfg.ipPoolRef deleted
      refine obeys_unlessFailed (fun _ => h'.ended) fun hx => .modify_bind (.modify_bind ?_)
      have hremoved : (v.next (.deletePool cfg.ipPoolRef) deleted).VMPoolRemoved c := by
        refine ⟨_, href, ?_⟩
        rw [removed_deletePool hx]
        exact List.mem_cons_self
      refine ⟨h'.phase.cluster, h'.unsent, ⟨fun _ => Or.inr ⟨h.phase.deleting, hremoved⟩,
        h'.uncreated_mem⟩, ?_, Or.inl h.ref⟩
      show View.FinalizerStep _ k c (dropFinalizers s.finalizers)
      rw [h.finalizers]
      refine .drop h'.phase ((lbRemoved_deletePool _ _).trans hlb) ?_ fun _ => hremoved
      rw [removed_deletePool hx]
      exact List.mem_cons_of_mem _ hgen
  · have hnot : ¬ vmPoolOwned c.status.conditions = true := fun hc => ho (h.owned.trans hc)
    refine .modify_bind ⟨h.phase.cluster, h.unsent, ⟨fun hc => absurd hc hnot, h.uncreated_mem⟩,
      ?_, Or.inl h.ref⟩
    show View.FinalizerStep _ k c (dropFinalizers s.finalizers)
    rw [h.finalizers]
    exact .drop h.phase hlb hgen fun hc => absurd hc hnot

theorem obeys_deleteGenerated (h : Leaving v c s) (hlb : v.lbRemoved = true) :
    Obeys sc.key v (deleteGenerated sc) s fun v' _ s' => Ended sc.key v' c s' := by
  refine .get_bind (.request_bind trivial fun service => ?_)
  refine obeys_unlessFailed (fun _ => h.ended) fun _ => ?_
  refine .request_bind ⟨c, h.phase, .generated⟩ fun pool => ?_
  have h' := h.deletePool sc.key.lbPoolName pool
  refine obeys_unlessFailed (fun _ => h'.ended) fun hx => ?_
  refine obeys_deleteVMIPPool h' ((lbRemoved_deletePool _ _).trans hlb) ?_
  rw [removed_deletePool hx]
  exact List.mem_cons_self

theorem obeys_reconcileDelete {late : Bool} (hd : c.deleting = true)
    (h : Running sc.key late v c s) :
    Obeys sc.key v (reconcileDelete sc) s fun v' _ s' => Ended sc.key v' c s' := by
  have hi := h.intact hd
  have hleave : Leaving v c s := ⟨⟨h.cluster, hd⟩, h.unsent, hi.uncreated, h.finalizers,
    hi.targetNamespace, hi.vmRef, hi.vmOwned⟩
  have hname : lbKey sc s = ⟨c.spec.targetNamespace, sc.key.lbName⟩ := by
    rw [lbKey, hi.targetNamespace]
  refine .get_bind (.request_bind ⟨c, hleave.phase, hname⟩ fun lb => ?_)
  have h₁ := hleave.deleteLoadBalancer (lbKey sc s) lb
  refine obeys_unlessFailed (fun _ => h₁.ended) fun hx => ?_
  have hlb := lbRemoved_deleteLoadBalancer (v := v) (n := lbKey sc s) hx
  split_ifs with ho
  · have hmay : MayDelete sc.key c s.spec.loadBalancerConfig.ipPoolRef := by
      rw [hi.lbRef]
      exact .custom (hi.lbOwned.symm.trans ho)
    refine .request_bind ⟨c, h₁.phase, hmay⟩ fun pool => ?_
    have h₂ := h₁.deletePool s.spec.loadBalancerConfig.ipPoolRef pool
    refine obeys_unlessFailed (fun _ => h₂.ended) fun _ => .modify_bind ?_
    -- The record of the other pool is not touched.
    have howned : vmPoolOwned (s.status.conditions.delete "CustomIPPoolCreated") =
        vmPoolOwned s.status.conditions := Conditions.isTrue_lookup (by
      rw [Conditions.delete, Table.lookup_erase_eq, if_neg (by decide)])
    exact obeys_deleteGenerated ⟨h₂.phase, h₂.unsent, h₂.uncreated, h₂.finalizers,
      h₂.targetNamespace, h₂.ref, howned.trans h₂.owned⟩
      ((lbRemoved_deletePool _ _).trans hlb)
  · exact obeys_deleteGenerated h₁ hlb

end Delete

section Reconcile

variable {ext : Externals} {k : ObjectKey} {c s : HarvesterCluster} {v : View}

theorem obeys_reconcileNormal {sc : Scope} (hd : c.deleting = false)
    (h : Running sc.key true v c s) :
    Obeys sc.key v (reconcileNormal ext sc) s fun v' _ s' => Ended sc.key v' c s' := by
  have hended := h.ended
  have hmodify : ∀ fs : List String, v.FinalizerStep sc.key c fs →
      Ended sc.key v c { s with finalizers := fs } := fun _ hstep =>
    ⟨hended.cluster, hended.unsent, hended.conditions, hstep, hended.ref⟩
  unfold reconcileNormal
  refine .get_bind ?_
  rw [h.finalizers]
  split_ifs with hlegacy hnew
  · refine .modify_bind (hmodify (migrateFinalizer s.finalizers) ?_)
    rw [h.finalizers]
    exact .migrate hlegacy.2
  · exact (running_reconcileInfrastructure hd hnew v s h).mono fun _ _ _ h' => h'.ended
  · refine .modify_bind (hmodify (addFinalizer s.finalizers clusterFinalizer) ?_)
    rw [h.finalizers]
    exact .add hnew

theorem obeys_reconcileBody (hc : v.cluster = some c)
    (hv : v.created = [] ∧ v.sent = false ∧ v.patching = false) :
    Obeys k v (reconcileBody ext k) c fun v' _ s' => Ended k v' c s' := by
  have h : Running k false v c c := .first hc hv.1 hv.2
  unfold reconcileBody
  refine .request_bind trivial fun owner => ?_
  rcases owner with e | (- | owner)
  · exact h.ended
  · exact h.ended
  refine .get_bind (.request_bind trivial fun paused => ?_)
  split_ifs
  · exact ((Maintains.recordPaused paused).bind fun _ => .pure _) v c h |>.mono
      fun _ _ _ h' => h'.ended
  refine (obeys_reconcileHarvesterConfig h).bind ?_ fun _ _ h' => h'.1.ended
  rintro v₁ (e | kubeconfig) s₁ ⟨h₁, -⟩
  · exact h₁.ended
  dsimp only
  split
  · exact h₁.ended
  · refine .get_bind ?_
    rw [h₁.deleting]
    split_ifs with hd
    · exact @obeys_reconcileDelete ⟨k, owner⟩ _ _ _ _ hd h₁
    · exact @obeys_reconcileNormal _ _ _ _ ⟨k, owner⟩ (by simpa using hd) h₁

/-- What a finalizer step rests on is not changed by a patch. -/
theorem View.FinalizerStep.patching {fs : List String} (h : v.FinalizerStep k c fs)
    (sent : Bool) : { v with sent := sent, patching := true }.FinalizerStep k c fs := by
  cases h with
  | keep => exact .keep
  | migrate new => exact .migrate new
  | add new => exact .add new
  | drop deleting lb generated vm =>
    exact .drop ⟨deleting.cluster, deleting.deleting⟩ lb generated vm

/-- If no condition changed, the pool that was created was on record before. -/
theorem Ended.done_of_unchanged (h : Ended k v c s)
    (hcs : Conditions.changed c.status.conditions s.status.conditions = []) : v.Done k := by
  intro hcreated
  rcases h.conditions.recorded hcreated with hname | howned
  · exact Or.inl hname
  · refine Or.inr (Or.inr ⟨c, h.cluster, ?_⟩)
    have hsame : c.status.conditions.lookup "VMIPPoolCreatedByController" =
        s.status.conditions.lookup "VMIPPoolCreatedByController" := by
      by_contra hne
      have hmem := Conditions.mem_changed.mpr hne
      rw [hcs] at hmem
      cases hmem
    exact (Conditions.isTrue_lookup hsame).trans howned

/-- The view after the patch of the conditions. -/
theorem conforms_sendConditions (h : Ended k v c s) :
    Prog.Conforms (Guard k) View.next v (sendConditions c s) fun v' _ =>
      v'.Done k ∧ (v' = v ∨ v' = { v with sent := true, patching := true }) := by
  unfold sendConditions
  split_ifs with hcs
  · exact ⟨h.done_of_unchanged hcs, Or.inl rfl⟩
  · exact ⟨⟨c, h.cluster, h.unsent.1, rfl, h.conditions⟩,
      fun _ => ⟨fun _ => Or.inr (Or.inl rfl), Or.inr rfl⟩⟩

theorem conforms_sendObject (hc : v.cluster = some c) (hfin : v.FinalizerStep k c s.finalizers)
    (href : vmPoolRef s = vmPoolRef c ∨ vmPoolRef s = some k.vmPoolName) (hdone : v.Done k) :
    Prog.Conforms (Guard k) View.next v (sendObject c s) fun v' _ =>
      v'.cluster = some c ∧ v'.Done k := by
  unfold sendObject
  split_ifs
  · exact ⟨hc, hdone⟩
  · exact ⟨⟨c, s, hc, rfl, hfin, href⟩, fun _ => ⟨hc, hdone⟩⟩

theorem conforms_sendStatus (hc : v.cluster = some c) (hdone : v.Done k) :
    Prog.Conforms (Guard k) View.next v (sendStatus c s) fun v' _ => v'.Done k := by
  unfold sendStatus
  split_ifs
  · exact hdone
  · refine ⟨⟨c, hc⟩, fun x => ?_⟩
    cases x with
    | ok u => exact hdone
    | error e =>
      dsimp only [Prog.bind]
      split_ifs <;> exact hdone

theorem conforms_patchHelper (h : Ended k v c s) :
    Prog.Conforms (Guard k) View.next v (patchHelper c s) fun v' _ => v'.Done k := by
  unfold patchHelper
  rw [Prog.conforms_bind]
  refine (conforms_sendConditions h).mono fun v₁ _ h₁ => ?_
  have hc₁ : v₁.cluster = some c ∧ v₁.FinalizerStep k c s.finalizers := by
    rcases h₁.2 with rfl | rfl
    · exact ⟨h.cluster, h.finalizers⟩
    · exact ⟨h.cluster, h.finalizers.patching true⟩
  rw [Prog.conforms_bind]
  refine (conforms_sendObject hc₁.1 hc₁.2 h.ref h₁.1).mono fun v₂ _ h₂ => ?_
  rw [Prog.conforms_bind]
  exact conforms_sendStatus h₂.1 h₂.2

/-- Every request of a pass of `Reconcile`, whatever the responses, is one that the guard
allows, and the pass ends with what it created on record. -/
theorem keeps_contract (ext : Externals) : (system ext).Keeps contract := by
  intro k
  show Prog.Conforms (Guard k) View.next View.fresh (reconcile ext k >>= fun _ => pure ())
    fun v _ => v.Done k
  rw [Prog.conforms_bind]
  unfold reconcile
  rw [Prog.conforms_bind]
  refine ⟨rfl, fun got => ?_⟩
  cases got with
  | error e =>
    have hdone : View.fresh.Done k := nofun
    dsimp only [Prog.Conforms]
    split_ifs <;> exact hdone
  | ok c =>
    show Prog.Conforms _ _ _ (reconcileRead ext k c) _
    unfold reconcileRead
    rw [Prog.conforms_bind]
    have hc : (View.fresh.next .getCluster (.ok c)).cluster = some c := rfl
    refine Prog.Conforms.mono (obeys_reconcileBody hc ⟨rfl, rfl, rfl⟩) fun v' out h => ?_
    rw [Prog.conforms_bind]
    -- The deferred function only mirrors the readiness before it patches.
    have hmirror : Ended k v' c (mirrorReady out.2) :=
      ⟨h.cluster, h.unsent, h.conditions, h.finalizers, h.ref⟩
    refine (conforms_patchHelper hmirror).mono fun v'' _ hdone => ?_
    cases out.1 with
    | some out => exact hdone
    | none => exact hdone

end Reconcile

end Caphv.Cluster
