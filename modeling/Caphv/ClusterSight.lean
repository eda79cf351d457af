import Caphv.ClusterEffects

namespace Caphv.Cluster

/-- What the controller makes in Harvester to expose the control plane of a cluster. -/
inductive Exposure where
  | loadBalancer (n : NamespacedName)
  | service (n : NamespacedName)
  | pool (n : String)
  deriving DecidableEq

/-- The answer to `EnsurePausedCondition` that ends a pass. -/
def stops (x : PausedResult) : Bool := x.err ≠ none ∨ x.isPaused ∨ x.requeue

/-- The responses that decide whether a pass goes on, where its endpoint comes from, and when it
may let go of the cluster. -/
structure Sight where
  cluster : Option HarvesterCluster
  /-- The first answer to `EnsurePausedCondition` ended the pass. -/
  stopped : Option Bool
  /-- The addresses read off Services and load balancers. -/
  addresses : List (NamespacedName × String)
  /-- What was deleted or found gone, and not made again since. -/
  gone : List Exposure

namespace Sight

def fresh : Sight := ⟨none, none, [], []⟩

def remove (e : Sight) (y : Exposure) (x : Except ApiError Unit) : Sight :=
  if Caphv.gone x then { e with gone := y :: e.gone } else e

def make (e : Sight) (y : Exposure) : Sight := { e with gone := e.gone.filter (· ≠ y) }

def next (e : Sight) : (r : Req) → Resp r → Sight
  | .getCluster, .ok c => { e with cluster := some c }
  | .ensurePausedCondition _ _, x => { e with stopped := e.stopped.or (some (stops x)) }
  | .getService n, .ok svc =>
    { e with addresses := (svc.val.ingress.head?.toList.map fun ip => (n, ip)) ++ e.addresses }
  | .getLoadBalancer n, .ok lb => { e with addresses := (n, lb.address) :: e.addresses }
  | .deleteLoadBalancer n, x => e.remove (.loadBalancer n) x
  | .deleteService n, x => e.remove (.service n) x
  | .deletePool n, x => e.remove (.pool n) x
  | .createLoadBalancer n _, _ => e.make (.loadBalancer n)
  | .createService n _, _ => e.make (.service n)
  | .createPool n _, _ => e.make (.pool n)
  | _, _ => e

end Sight

def exposures (k : ObjectKey) (ns : String) : List Exposure :=
  [.loadBalancer ⟨ns, k.lbName⟩, .service ⟨ns, k.lbName⟩, .pool k.lbPoolName]

/-- The requests that make or change something outside the HarvesterCluster. -/
def Req.makes : Req → Bool
  | .createPool _ _ => true
  | .updatePool _ _ => true
  | .createNamespace _ => true
  | .createService _ _ => true
  | .updateService _ _ => true
  | .createLoadBalancer _ _ => true
  | .updateConfigMap _ _ => true
  | .getCloudConfigB64 _ _ _ => true
  | .patchManagementCluster _ => true
  | .updateFleetCluster _ _ => true
  | _ => false

namespace Sight

variable (e : Sight) (k : ObjectKey) (c s : HarvesterCluster)

structure Normal : Prop where
  cluster : e.cluster = some c
  alive : c.deleting = false
  protected_ : clusterFinalizer ∈ c.finalizers

/-- The endpoint is the one read, or an address that the pass was told for its load balancer or
its Service. -/
def EndpointFrom : Prop :=
  s.spec.controlPlaneEndpoint = c.spec.controlPlaneEndpoint ∨
    ∃ ip, (⟨c.spec.targetNamespace, k.lbName⟩, ip) ∈ e.addresses ∧ ip ≠ "" ∧
      s.spec.controlPlaneEndpoint = ⟨ip, 6443⟩

/-- The finalizers stay, or that of the controller is put on, or taken off once all that the
deletion takes away is gone. -/
def LetsGo : Prop :=
  s.finalizers = c.finalizers ∨ c.deleting = false ∧ clusterFinalizer ∈ s.finalizers ∨
    c.deleting = true ∧ s.finalizers = dropFinalizers c.finalizers ∧
      ∀ y ∈ exposures k c.spec.targetNamespace, y ∈ e.gone

end Sight

/-- What every request of a pass says about what the pass has learnt. A pass that was not let
through at most records the pause and mirrors the readiness in the status. -/
def SightGuard (k : ObjectKey) (e : Sight) : Req → Prop
  | .getCluster => e.cluster = none ∧ e.gone = []
  | .getOwnerCluster => True
  | .ensurePausedCondition _ _ => True
  | .patchConditions before after => e.stopped ≠ some false →
      ∃ p, before.lookup "Paused" ≠ some p ∧ after = before.set "Paused" p
  | .patchStatus p => ∃ c st, e.cluster = some c ∧ p = .between c.status st ∧
      (e.stopped ≠ some false → p = .between c.status (mirrorReady c).status)
  | .patchObject p => e.stopped = some false ∧
      ∃ c s, e.cluster = some c ∧ p = .between c s ∧ e.EndpointFrom k c s ∧ e.LetsGo k c s
  | r => e.stopped = some false ∧ (r.makes = true → ∃ c, e.Normal c)

def sightContract : Contract ObjectKey Req Sight := ⟨SightGuard, fun _ _ => True⟩

/-- The cluster controller, watched for what its passes learn. -/
def observed (ext : Externals) : Controller ObjectKey Req Resp Answer World (View × Sight) Env :=
  (system ext).observe Sight.next .fresh

abbrev ObservedState := State ObjectKey Req Resp World (View × Sight)

section Going

variable {ext : Externals} {sc : Scope} {k : ObjectKey} {e : Sight} {c s : HarvesterCluster}

abbrev Watch {α : Type} (k : ObjectKey) (e : Sight) (b : Pass α) (s : HarvesterCluster)
    (Q : Sight → Option α → HarvesterCluster → Prop) : Prop :=
  Body.Conforms (SightGuard k) Sight.next e b s Q

structure Going (k : ObjectKey) (c : HarvesterCluster) (e : Sight) (s : HarvesterCluster) :
    Prop where
  cluster : e.cluster = some c
  through : e.stopped = some false
  finalizers : s.finalizers = c.finalizers
  deleting : s.deleting = c.deleting
  targetNamespace : s.spec.targetNamespace = c.spec.targetNamespace
  endpoint : e.EndpointFrom k c s

/-- The view after the pass has read an address, or anything else. -/
theorem Going.of_view {e' : Sight} (h : Going k c e s) (hc : e'.cluster = e.cluster)
    (hs : e'.stopped = e.stopped) (ha : ∀ a ∈ e.addresses, a ∈ e'.addresses) : Going k c e' s where
  cluster := hc.trans h.cluster
  through := hs.trans h.through
  finalizers := h.finalizers
  deleting := h.deleting
  targetNamespace := h.targetNamespace
  endpoint := h.endpoint.imp_right fun ⟨ip, hip, hne, heq⟩ => ⟨ip, ha _ hip, hne, heq⟩

theorem Sight.cluster_remove (y : Exposure) (x : Except ApiError Unit) :
    (e.remove y x).cluster = e.cluster := by
  unfold Sight.remove
  split_ifs <;> rfl

theorem Sight.cluster_next (e : Sight) (r : Req) (x : Resp r) :
    (e.next r x).cluster = readCluster e.cluster r x := by
  cases r with
  | getCluster | getService | getLoadBalancer => cases x <;> rfl
  | deleteLoadBalancer | deleteService | deletePool => exact e.cluster_remove _ _
  | _ => rfl

theorem Sight.stopped_remove (y : Exposure) (x : Except ApiError Unit) :
    (e.remove y x).stopped = e.stopped := by
  unfold Sight.remove
  split_ifs <;> rfl

theorem Sight.addresses_remove (y : Exposure) (x : Except ApiError Unit) :
    (e.remove y x).addresses = e.addresses := by
  unfold Sight.remove
  split_ifs <;> rfl

theorem Going.remove (h : Going k c e s) (y : Exposure) (x : Except ApiError Unit) :
    Going k c (e.remove y x) s :=
  h.of_view (e.cluster_remove y x) (e.stopped_remove y x) fun a ha => by
    rwa [e.addresses_remove y x]

/-- No response but that of a second read of the cluster disturbs a pass that goes on. -/
theorem Going.next (h : Going k c e s) (r : Req) (hr : r ≠ .getCluster) (x : Resp r) :
    Going k c (e.next r x) s := by
  have hsame : ∀ e' : Sight, e'.cluster = e.cluster → e'.stopped = e.stopped →
      e'.addresses = e.addresses → Going k c e' s := fun e' hc hs ha =>
    h.of_view hc hs fun a hmem => ha ▸ hmem
  cases r with
  | getCluster => exact absurd rfl hr
  | ensurePausedCondition o recorded =>
    exact h.of_view rfl (by simp [Sight.next, h.through]) fun a ha => ha
  | getService n =>
    cases x with
    | error err => exact h
    | ok svc => exact h.of_view rfl rfl fun a ha => List.mem_append_right _ ha
  | getLoadBalancer n =>
    cases x with
    | error err => exact h
    | ok lb => exact h.of_view rfl rfl fun a ha => List.mem_cons_of_mem _ ha
  | deleteLoadBalancer n => exact h.remove _ _
  | deleteService n => exact h.remove _ _
  | deletePool n => exact h.remove _ _
  | createLoadBalancer n spec => exact hsame _ rfl rfl rfl
  | createService n ip => exact hsame _ rfl rfl rfl
  | createPool n spec => exact hsame _ rfl rfl rfl
  | _ => exact h

/-- A write of the cluster in memory that leaves alone what is tracked. -/
theorem Going.write (h : Going k c e s) {s' : HarvesterCluster}
    (hf : s'.finalizers = s.finalizers) (hd : s'.deleting = s.deleting)
    (ht : s'.spec.targetNamespace = s.spec.targetNamespace)
    (he : s'.spec.controlPlaneEndpoint = s.spec.controlPlaneEndpoint) : Going k c e s' where
  cluster := h.cluster
  through := h.through
  finalizers := hf.trans h.finalizers
  deleting := hd.trans h.deleting
  targetNamespace := ht.trans h.targetNamespace
  endpoint := by
    unfold Sight.EndpointFrom
    rw [he]
    exact h.endpoint

/-- The endpoint is set to an address that the pass was told. -/
theorem Going.setEndpoint (h : Going k c e s) {ip : String}
    (hip : (⟨c.spec.targetNamespace, k.lbName⟩, ip) ∈ e.addresses) (hne : ip ≠ "") :
    Going k c e { s with spec := { s.spec with controlPlaneEndpoint := ⟨ip, 6443⟩ } } where
  cluster := h.cluster
  through := h.through
  finalizers := h.finalizers
  deleting := h.deleting
  targetNamespace := h.targetNamespace
  endpoint := Or.inr ⟨ip, hip, hne, rfl⟩

abbrev Continues {α : Type} (k : ObjectKey) (c : HarvesterCluster) (b : Pass α) : Prop :=
  Body.Maintains (SightGuard k) Sight.next (Going k c) b

theorem continues_modifyStatus (f : HarvesterClusterStatus → HarvesterClusterStatus) :
    Continues k c (modifyStatus f) := .modify fun _ _ h => h.write rfl rfl rfl rfl

theorem continues_setCondition (type : String) (cond : Condition) :
    Continues k c (setCondition type cond) := continues_modifyStatus _

theorem continues_modifySpec {f : HarvesterClusterSpec → HarvesterClusterSpec}
    (ht : ∀ spec, (f spec).targetNamespace = spec.targetNamespace)
    (he : ∀ spec, (f spec).controlPlaneEndpoint = spec.controlPlaneEndpoint) :
    Continues k c (modifySpec f) := .modify fun _ s h => h.write rfl rfl (ht s.spec) (he s.spec)

def Req.open_ : Req → Bool
  | .getCluster => false
  | .patchObject _ => false
  | .patchStatus _ => false
  | r => !r.makes

theorem Req.open_.guard {r : Req} (h : r.open_ = true) (he : e.stopped = some false) :
    SightGuard k e r := by
  cases r with
  | getCluster => cases h
  | patchObject p => cases h
  | patchStatus p => cases h
  | createPool n spec => cases h
  | updatePool n p => cases h
  | createNamespace n => cases h
  | createService n ip => cases h
  | updateService n svc => cases h
  | createLoadBalancer n spec => cases h
  | updateConfigMap n data => cases h
  | getCloudConfigB64 sa ns server => cases h
  | patchManagementCluster n => cases h
  | updateFleetCluster n labels => cases h
  | getOwnerCluster => trivial
  | ensurePausedCondition o recorded => trivial
  | patchConditions b a => exact fun hn => absurd he hn
  | _ => exact ⟨he, nofun⟩

theorem Req.open_.ne_getCluster {r : Req} (h : r.open_ = true) : r ≠ .getCluster := by
  rintro rfl
  cases h

theorem continues_call {r : Req} (hr : r.open_ = true) : Continues k c (call r) :=
  .request fun _ _ h => ⟨Req.open_.guard hr h.through, h.next r (Req.open_.ne_getCluster hr)⟩

end Going

section Connection

variable {ext : Externals} {k : ObjectKey} {c : HarvesterCluster}

theorem continues_reconcileHarvesterConfig : Continues k c (reconcileHarvesterConfig ext) := by
  have hnotReady : ∀ reason message, Continues k c (connectionNotReady reason message) :=
    fun _ _ => continues_setCondition _ _
  have hfail : ∀ reason message err, Continues k c (do
      connectionNotReady reason message
      pure (.error err : Except String String)) :=
    fun _ _ _ => .bind (hnotReady _ _) fun _ => .pure _
  have hunset : ∀ reason message err, Continues k c (do
      setReady false
      connectionNotReady reason message
      pure (.error err : Except String String)) :=
    fun _ _ _ => .bind (continues_modifyStatus _) fun _ => hfail _ _ _
  refine .bind (hnotReady _ _) fun _ => .bind .get fun s =>
    .bind (continues_call rfl) fun secret => ?_
  cases secret with
  | error err => exact hunset _ _ _
  | ok kubeconfig =>
    dsimp only
    split
    · exact hunset _ _ _
    refine .bind (continues_modifySpec (fun _ => rfl) fun _ => rfl) fun _ => ?_
    split
    · exact hfail _ _ _
    split
    · exact hfail _ _ _
    refine .bind (continues_call rfl) fun deployment => ?_
    cases deployment with
    | error err => exact hfail _ _ _
    | ok conditions =>
      dsimp only
      split_ifs
      · exact hfail _ _ _
      · exact .bind (continues_modifyStatus _) fun _ => .pure _

end Connection

section Normal

variable {ext : Externals} {sc : Scope} {k : ObjectKey} {c s : HarvesterCluster} {e : Sight}

/-- Every request but those of the cluster itself is allowed to a pass past the finalizer
checks. -/
theorem Going.guard (h : Going k c e s) (hd : c.deleting = false)
    (hf : clusterFinalizer ∈ c.finalizers) {r : Req} (hget : r ≠ .getCluster)
    (hobject : ∀ p, r ≠ .patchObject p) (hstatus : ∀ p, r ≠ .patchStatus p) :
    SightGuard k e r := by
  have hrest : e.stopped = some false ∧ (r.makes = true → ∃ c, e.Normal c) :=
    ⟨h.through, fun _ => ⟨c, h.cluster, hd, hf⟩⟩
  cases r with
  | getCluster => exact absurd rfl hget
  | patchObject p => exact absurd rfl (hobject p)
  | patchStatus p => exact absurd rfl (hstatus p)
  | getOwnerCluster => trivial
  | ensurePausedCondition o recorded => trivial
  | patchConditions b a => exact fun hn => absurd h.through hn
  | _ => exact hrest

theorem continues_normal (hd : c.deleting = false) (hf : clusterFinalizer ∈ c.finalizers)
    {r : Req} (hget : r ≠ .getCluster) (hobject : ∀ p, r ≠ .patchObject p)
    (hstatus : ∀ p, r ≠ .patchStatus p) : Continues k c (call r) :=
  .request fun _ _ h => ⟨h.guard hd hf hget hobject hstatus, h.next r hget⟩

theorem going_indifferent (hd : c.deleting = false) (hf : clusterFinalizer ∈ c.finalizers) :
    Indifferent (SightGuard k) Sight.next (Going k c) where
  call {r} hr := by
    refine continues_normal hd hf ?_ (fun p => ?_) fun p => ?_
    · rintro rfl
      cases hr
    · rintro rfl
      cases hr
    · rintro rfl
      cases hr
  report _ _ := continues_modifyStatus _
  server _ := continues_modifySpec (fun _ => rfl) fun _ => rfl
  failureDomains _ := continues_modifyStatus _

theorem Going.lbKey (h : Going sc.key c e s) :
    lbKey sc s = ⟨c.spec.targetNamespace, sc.key.lbName⟩ := by
  rw [Cluster.lbKey, h.targetNamespace]

/-- The endpoint comes from the ingress of the placeholder Service. -/
theorem continues_reconcilePlaceholder (hd : c.deleting = false)
    (hf : clusterFinalizer ∈ c.finalizers) :
    Continues sc.key c (reconcilePlaceholder ext sc) := by
  have hi : Indifferent (SightGuard sc.key) Sight.next (Going sc.key c) := going_indifferent hd hf
  have hip : ∀ name, Continues sc.key c (getIPFromIPPool ext sc name) := fun name =>
    maintains_getIPFromIPPool hi
      (maintains_createIPPoolIfNotExists hi
        (fun _ => continues_normal hd hf nofun nofun nofun) (fun _ => continues_modifyStatus _)
        (continues_modifyStatus _))
      (fun _ => continues_modifySpec (fun _ => rfl) fun _ => rfl)
      (fun _ _ => continues_normal hd hf nofun nofun nofun) name
  have hrefresh : ∀ svc, Continues sc.key c (refreshPlaceholder ext sc svc) := by
    intro svc
    refine .bind .get fun s => ?_
    split_ifs
    · refine .bind (hip _) fun newIP => ?_
      cases newIP with
      | error err => exact .pure _
      | ok ip =>
        refine .bind (hi.call rfl) fun updated => ?_
        cases updated <;> exact .pure _
    · exact .pure _
  have hcreate : Continues sc.key c (createPlaceholder ext sc) := by
    refine .bind .get fun s => ?_
    have hplaceholder : Continues sc.key c (placeholderIP ext sc s) := by
      unfold placeholderIP
      split_ifs
      · exact hip _
      · exact .pure _
    refine .bind hplaceholder fun lbIP => ?_
    cases lbIP with
    | error err => exact .pure _
    | ok ip =>
      refine .bind (hi.call rfl) fun created => ?_
      cases created with
      | ok u => exact .pure _
      | error err =>
        dsimp only
        split_ifs <;> exact .pure _
  intro e s h
  refine .get_bind (.request_bind (Req.open_.guard rfl h.through) fun existing => ?_)
  have h₁ := h.next (.getService (lbKey sc s)) nofun existing
  cases existing with
  | error err =>
    dsimp only
    split_ifs
    · exact hcreate _ _ h₁
    · exact h₁
  | ok svc =>
    dsimp only
    split
    · exact hrefresh svc _ _ h₁
    · rename_i ip rest hing
      split_ifs with hip₀
      · exact hrefresh svc _ _ h₁
      · -- The first address of the ingress is on record since the Service was read.
        have hmem : (⟨c.spec.targetNamespace, sc.key.lbName⟩, ip) ∈
            (e.next (.getService (lbKey sc s)) (.ok svc)).addresses := by
          show _ ∈ (svc.val.ingress.head?.toList.map fun ip => (lbKey sc s, ip)) ++ e.addresses
          rw [hing, h.lbKey]
          exact List.mem_cons_self
        exact (h₁.setEndpoint hmem hip₀).write rfl rfl rfl rfl

theorem continues_awaitLoadBalancer (hd : c.deleting = false)
    (hf : clusterFinalizer ∈ c.finalizers) : Continues sc.key c (awaitLoadBalancer sc) := by
  have hi : Indifferent (SightGuard sc.key) Sight.next (Going sc.key c) := going_indifferent hd hf
  have hcreate : Continues sc.key c (createLoadBalancerIfNotExists sc) := by
    refine .bind .get fun s => .bind (hi.call rfl) fun created => ?_
    cases created with
    | ok u => exact .pure _
    | error err =>
      dsimp only
      split_ifs <;> exact .pure _
  have hget : ∀ e s, Going sc.key c e s → Watch sc.key e (getLoadBalancerIP sc) s fun e' out s' =>
      Going sc.key c e' s' ∧ ∀ ip, out = some (.ok ip) →
        (⟨c.spec.targetNamespace, sc.key.lbName⟩, ip) ∈ e'.addresses ∧ ip ≠ "" := by
    intro e s h
    refine .get_bind (.request_bind (Req.open_.guard rfl h.through) fun got => ?_)
    have h₁ := h.next (.getLoadBalancer (lbKey sc s)) nofun got
    cases got with
    | error err => exact ⟨h₁, nofun⟩
    | ok lb =>
      dsimp only
      split_ifs with hne
      · exact ⟨h₁, nofun⟩
      · refine ⟨h₁, fun ip hip => ?_⟩
        obtain rfl := Except.ok.inj (Option.some.inj hip)
        exact ⟨h.lbKey ▸ List.mem_cons_self, hne⟩
  refine .bind hcreate fun created => ?_
  cases created with
  | error err => exact .bind (continues_setCondition _ _) fun _ => .pure _
  | ok u =>
    intro e s h
    refine (hget e s h).bind ?_ fun _ _ h' => h'.1
    rintro e₁ (err | lbIP) s₁ ⟨h₁, hip⟩
    · exact h₁.write rfl rfl rfl rfl
    · obtain ⟨hmem, hne⟩ := hip lbIP rfl
      exact (h₁.setEndpoint hmem hne).write rfl rfl rfl rfl

theorem continues_reconcileInfrastructure (hd : c.deleting = false)
    (hf : clusterFinalizer ∈ c.finalizers) :
    Continues sc.key c (reconcileInfrastructure ext sc) := by
  have hi : Indifferent (SightGuard sc.key) Sight.next (Going sc.key c) := going_indifferent hd hf
  have hvm : Continues sc.key c (reconcileVMIPPool sc) := by
    have href : Continues sc.key c (setVMPoolRef sc.key.vmPoolName) :=
      continues_modifySpec (fun _ => rfl) fun _ => rfl
    exact maintains_reconcileVMIPPool hi href fun p =>
      maintains_createVMIPPool hi (fun _ => continues_normal hd hf nofun nofun nofun) href
        (fun _ => continues_modifyStatus _) p
  refine maintains_reconcileInfrastructure hi hvm (continues_reconcilePlaceholder hd hf) ?_
  exact maintains_reconcileLoadBalancer hi
    (maintains_reconcileCloudProviderConfig hi
      (fun _ _ => continues_normal hd hf nofun nofun nofun) fun _ => continues_setCondition _ _)
    (continues_awaitLoadBalancer hd hf)
    (maintains_reconcileFleetIntegration hi
      (fun _ _ => continues_normal hd hf nofun nofun nofun) fun _ => continues_setCondition _ _)

end Normal

structure Over (k : ObjectKey) (c : HarvesterCluster) (e : Sight) (s : HarvesterCluster) :
    Prop where
  cluster : e.cluster = some c
  still : e.stopped ≠ some false → s = c ∨ ∃ p, s = c.markPaused p
  endpoint : e.EndpointFrom k c s
  finalizers : e.LetsGo k c s

section Reconcile

variable {ext : Externals} {k : ObjectKey} {c s : HarvesterCluster} {e : Sight}

theorem Going.over (h : Going k c e s) : Over k c e s :=
  ⟨h.cluster, fun hn => absurd h.through hn, h.endpoint, Or.inl h.finalizers⟩

/-- The cluster in memory with other finalizers. -/
theorem Going.over_of_finalizers (h : Going k c e s) {fs : List String}
    (hgo : e.LetsGo k c { s with finalizers := fs }) :
    Over k c e { s with finalizers := fs } :=
  ⟨h.cluster, fun hn => absurd h.through hn, h.endpoint, hgo⟩

theorem watch_reconcileNormal {sc : Scope} (hd : c.deleting = false) (h : Going sc.key c e s) :
    Watch sc.key e (reconcileNormal ext sc) s fun e' _ s' => Over sc.key c e' s' := by
  unfold reconcileNormal
  refine .get_bind ?_
  split_ifs with hlegacy hnew
  · exact h.over_of_finalizers (Or.inr (Or.inl ⟨hd, mem_migrateFinalizer _⟩))
  · exact (continues_reconcileInfrastructure hd (h.finalizers ▸ hnew) e s h).mono
      fun _ _ _ h' => h'.over
  · exact h.over_of_finalizers (Or.inr (Or.inl ⟨hd, mem_addFinalizer.mpr (Or.inr rfl)⟩))

theorem watch_unlessFailed {x : Except ApiError Unit} {rest : Pass Outcome}
    {Q : Sight → Option Outcome → HarvesterCluster → Prop}
    (hfail : ∀ out, Q e (some out) s) (hrest : gone x = true → Watch k e rest s Q) :
    Watch k e (unlessFailed x rest) s Q := by
  unfold unlessFailed
  cases x with
  | ok u => exact hrest rfl
  | error err =>
    dsimp only
    split_ifs with hnf
    · exact hrest hnf
    · exact hfail _

theorem Sight.mem_remove {y : Exposure} {x : Except ApiError Unit} (hx : Caphv.gone x = true) :
    y ∈ (e.remove y x).gone := by
  unfold Sight.remove
  rw [if_pos hx]
  exact List.mem_cons_self

theorem Sight.mem_remove_of_mem {y z : Exposure} {x : Except ApiError Unit} (hz : z ∈ e.gone) :
    z ∈ (e.remove y x).gone := by
  unfold Sight.remove
  split_ifs
  · exact List.mem_cons_of_mem _ hz
  · exact hz

/-- The pool of the VMs is the last thing that a deletion looks at. -/
theorem watch_deleteVMIPPool (h : Going k c e s) (hd : c.deleting = true)
    (hgone : ∀ y ∈ exposures k c.spec.targetNamespace, y ∈ e.gone) :
    Watch k e deleteVMIPPool s fun e' _ s' => Over k c e' s' := by
  have hfinish : ∀ {e' s'}, Going k c e' s' →
      (∀ y ∈ exposures k c.spec.targetNamespace, y ∈ e'.gone) →
      Over k c e' { s' with finalizers := dropFinalizers s'.finalizers } := fun h' hg =>
    h'.over_of_finalizers (Or.inr (Or.inr ⟨hd, congrArg dropFinalizers h'.finalizers, hg⟩))
  unfold deleteVMIPPool
  refine .get_bind ?_
  dsimp only
  split_ifs
  · cases s.spec.vmNetworkConfig with
    | none => exact h.over
    | some vmNetCfg =>
      refine .request_bind (Req.open_.guard rfl h.through) fun pool => ?_
      refine watch_unlessFailed (fun _ => (h.remove _ pool).over) fun _ => ?_
      have h₁ : Going k c (e.remove (.pool vmNetCfg.ipPoolRef) pool)
          { s with status := { s.status with
            conditions := s.status.conditions.delete "VMIPPoolCreatedByController" } } :=
        (h.remove _ pool).write rfl rfl rfl rfl
      exact hfinish h₁ fun y hy => Sight.mem_remove_of_mem (hgone y hy)
  · exact hfinish h hgone

theorem watch_deleteGenerated {sc : Scope} (h : Going sc.key c e s) (hd : c.deleting = true)
    (hlb : .loadBalancer ⟨c.spec.targetNamespace, sc.key.lbName⟩ ∈ e.gone) :
    Watch sc.key e (deleteGenerated sc) s fun e' _ s' => Over sc.key c e' s' := by
  unfold deleteGenerated
  refine .get_bind (.request_bind (Req.open_.guard rfl h.through) fun service => ?_)
  have h₁ : Going sc.key c (e.remove (.service (lbKey sc s)) service) s := h.remove _ service
  refine watch_unlessFailed (fun _ => h₁.over) fun hservice => ?_
  refine .request_bind (Req.open_.guard rfl h₁.through) fun pool => ?_
  have h₂ := h₁.remove (.pool sc.key.lbPoolName) pool
  refine watch_unlessFailed (fun _ => h₂.over) fun hpool => watch_deleteVMIPPool h₂ hd ?_
  intro y hy
  rcases List.mem_cons.mp hy with rfl | hy
  · exact Sight.mem_remove_of_mem (Sight.mem_remove_of_mem hlb)
  rcases List.mem_cons.mp hy with rfl | hy
  · rw [← h.lbKey]
    exact Sight.mem_remove_of_mem (Sight.mem_remove hservice)
  · rw [List.mem_singleton.mp hy]
    exact Sight.mem_remove hpool

theorem watch_reconcileDelete {sc : Scope} (h : Going sc.key c e s) (hd : c.deleting = true) :
    Watch sc.key e (reconcileDelete sc) s fun e' _ s' => Over sc.key c e' s' := by
  unfold reconcileDelete
  refine .get_bind (.request_bind (Req.open_.guard rfl h.through) fun lb => ?_)
  have h₁ : Going sc.key c (e.remove (.loadBalancer (lbKey sc s)) lb) s := h.remove _ lb
  refine watch_unlessFailed (fun _ => h₁.over) fun hlb => ?_
  have hgone : .loadBalancer ⟨c.spec.targetNamespace, sc.key.lbName⟩ ∈
      (e.remove (.loadBalancer (lbKey sc s)) lb).gone := h.lbKey ▸ Sight.mem_remove hlb
  split_ifs
  · refine .request_bind (Req.open_.guard rfl h₁.through) fun pool => ?_
    refine watch_unlessFailed (fun _ => (h₁.remove _ pool).over) fun _ => .modify_bind ?_
    refine watch_deleteGenerated ((h₁.remove _ pool).write rfl rfl rfl rfl) hd ?_
    exact Sight.mem_remove_of_mem hgone
  · exact watch_deleteGenerated h₁ hd hgone

theorem watch_reconcileBody (hc : e.cluster = some c) (hnew : e.stopped = none) :
    Watch k e (reconcileBody ext k) c fun e' _ s' => Over k c e' s' := by
  have hearly : ∀ e' : Sight, e'.cluster = some c → Over k c e' c := fun e' hc' =>
    ⟨hc', fun _ => Or.inl rfl, Or.inl rfl, Or.inl rfl⟩
  unfold reconcileBody
  refine .request_bind trivial fun owner => ?_
  rcases owner with err | (- | owner)
  · exact hearly _ hc
  · exact hearly _ hc
  refine .get_bind (.request_bind trivial fun paused => ?_)
  split_ifs with hpaused
  · unfold recordPaused
    cases paused.condition with
    | none => exact hearly _ hc
    | some p => exact ⟨hc, fun _ => Or.inr ⟨p, rfl⟩, Or.inl rfl, Or.inl rfl⟩
  · have hstops : stops paused = false := by
      unfold stops
      exact decide_eq_false hpaused
    have h : Going k c (e.next (.ensurePausedCondition owner
        (c.status.conditions.lookup "Paused")) paused) c := by
      refine ⟨hc, ?_, rfl, rfl, rfl, Or.inl rfl⟩
      show e.stopped.or (some (stops paused)) = some false
      rw [hnew, hstops]
      rfl
    refine (continues_reconcileHarvesterConfig _ _ h).bind ?_ fun _ _ h' => h'.over
    rintro e₁ (err | kubeconfig) s₁ h₁
    · exact h₁.over
    dsimp only
    split
    · exact h₁.over
    · refine .get_bind ?_
      rw [h₁.deleting]
      split_ifs with hd
      · exact @watch_reconcileDelete _ _ _ ⟨k, owner⟩ h₁ hd
      · exact @watch_reconcileNormal _ _ _ _ ⟨k, owner⟩ (by simpa using hd) h₁

/-- The deferred patch; a pass that was not let through has only the pause and the mirrored
readiness to write. -/
theorem conforms_patchHelper_sight (h : Over k c e s) :
    Prog.Conforms (SightGuard k) Sight.next e (patchHelper c (mirrorReady s)) fun _ _ => True := by
  have hconditions : Prog.Conforms (SightGuard k) Sight.next e (sendConditions c (mirrorReady s))
      fun e' _ => e' = e := by
    unfold sendConditions
    split_ifs with hcs
    · exact rfl
    · refine ⟨fun hn => ?_, fun _ => rfl⟩
      have hself : Conditions.changed c.status.conditions c.status.conditions = [] :=
        List.eq_nil_iff_forall_not_mem.mpr fun t ht => Conditions.mem_changed.mp ht rfl
      rcases h.still hn with rfl | ⟨p, rfl⟩
      · exact absurd hself hcs
      · refine ⟨p, fun hsame => hcs ?_, rfl⟩
        have hset : (mirrorReady (c.markPaused p)).status.conditions = c.status.conditions :=
          if_pos hsame
        rw [hset, hself]
  have hobject : Prog.Conforms (SightGuard k) Sight.next e (sendObject c (mirrorReady s))
      fun e' _ => e' = e := by
    unfold sendObject
    split_ifs with hsame
    · exact rfl
    · refine ⟨⟨?_, c, mirrorReady s, h.cluster, rfl, h.endpoint, h.finalizers⟩, fun _ => rfl⟩
      by_contra hn
      rcases h.still hn with rfl | ⟨p, rfl⟩
      · exact hsame ⟨rfl, rfl⟩
      · exact hsame ⟨rfl, rfl⟩
  have hstatus : Prog.Conforms (SightGuard k) Sight.next e (sendStatus c (mirrorReady s))
      fun e' _ => e' = e := by
    unfold sendStatus
    split_ifs
    · exact rfl
    · refine ⟨⟨c, (mirrorReady s).status, h.cluster, rfl, fun hn => ?_⟩, fun out => ?_⟩
      · rcases h.still hn with rfl | ⟨p, rfl⟩
        · rfl
        · rfl
      cases out with
      | ok u => exact rfl
      | error err =>
        dsimp only [Prog.bind]
        split_ifs <;> exact rfl
  unfold patchHelper
  rw [Prog.conforms_bind]
  refine hconditions.mono fun e₁ _ h₁ => ?_
  subst h₁
  rw [Prog.conforms_bind]
  refine hobject.mono fun e₂ _ h₂ => ?_
  subst h₂
  rw [Prog.conforms_bind]
  exact hstatus.mono fun _ _ _ => trivial

/-- The passes keep to both contracts. -/
theorem keeps_sight (ext : Externals) :
    (observed ext).Keeps (contract.both sightContract) := by
  refine (keeps_contract ext).observe fun k => ?_
  show Prog.Conforms (SightGuard k) Sight.next .fresh (reconcile ext k >>= fun _ => pure ())
    fun _ _ => True
  rw [Prog.conforms_bind]
  unfold reconcile
  rw [Prog.conforms_bind]
  refine ⟨⟨rfl, rfl⟩, fun got => ?_⟩
  cases got with
  | error err =>
    dsimp only [Prog.Conforms]
    split_ifs <;> trivial
  | ok c =>
    show Prog.Conforms _ _ _ (reconcileRead ext k c) _
    unfold reconcileRead
    rw [Prog.conforms_bind]
    refine Prog.Conforms.mono (watch_reconcileBody rfl rfl) fun e' out h => ?_
    rw [Prog.conforms_bind]
    refine (conforms_patchHelper_sight h).mono fun _ _ _ => ?_
    cases out.1 with
    | some out => trivial
    | none => trivial

end Reconcile

structure ObservedStarts (t : ObservedState) : Prop where
  idle : t.Idle
  unseen : ∀ k, t.view k = (.fresh, .fresh)

theorem ObservedStarts.conforms {ext : Externals} {t : ObservedState} (h : ObservedStarts t) :
    (observed ext).Conforms (contract.both sightContract) t :=
  .of_idle h.idle fun k => by
    rw [h.unseen k]
    exact ⟨nofun, trivial⟩

/-- An observer may be added when no pass is under way. -/
theorem Starts.watched {s : ClusterState} (h : Starts s) :
    ObservedStarts (Controller.watched .fresh s) where
  idle := h.idle
  unseen k := by
    show (s.view k, Sight.fresh) = _
    rw [h.unseen k]

/-- What the observed system keeps holds in every state that the system reaches, for what its
passes have learnt there. -/
theorem Starts.reaches {ext : Externals} {s : ClusterState} (h : Starts s)
    {ok : World → (ObjectKey → View) → ClusterEvent → Prop}
    {Inv : World → (ObjectKey → View × Sight) → Prop}
    (hp : (observed ext).Preserves (contract.both sightContract)
      (fun w v => ok w (Controller.firstView v)) Inv)
    (hi : Inv s.world fun _ => (.fresh, .fresh)) {acts : List ClusterAction}
    (hok : (system ext).Admissible ok s acts) :
    ∃ v : ObjectKey → View × Sight, Controller.firstView v = ((system ext).run s acts).view ∧
      Inv ((system ext).run s acts).world v ∧
      ∀ k r, ((system ext).run s acts).request k = some r →
        Guard k (v k).1 r ∧ SightGuard k (v k).2 r := by
  have hview : s.view = fun _ => .fresh := funext h.unseen
  refine hp.reaches (keeps_sight ext) h.idle (fun k => ?_) ?_ hok
  · rw [h.unseen k]
    exact ⟨nofun, trivial⟩
  · rw [hview]
    exact hi

end Caphv.Cluster
