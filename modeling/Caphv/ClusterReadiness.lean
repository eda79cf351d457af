import Caphv.ClusterStall

namespace Caphv.Cluster

open Prog (Executes)
open Body (Leads)

def okWith {ε α : Type} (p : α → Bool) : Except ε α → Bool
  | .ok a => p a
  | .error _ => false

theorem okWith_eq_true {ε α : Type} {p : α → Bool} {x : Except ε α} :
    okWith p x = true ↔ ∃ a, x = .ok a ∧ p a = true := by
  cases x with
  | error e => exact ⟨nofun, nofun⟩
  | ok a => exact ⟨fun h => ⟨a, rfl, h⟩, fun ⟨_, ha, hp⟩ => Except.ok.inj ha ▸ hp⟩

theorem isOk_eq_true {ε α : Type} {x : Except ε α} (h : x.isOk = true) : ∃ a, x = .ok a := by
  cases x with
  | error e => cases h
  | ok a => exact ⟨a, rfl⟩

/-- What a pass reads outside of the cluster: whether it is recorded that the cluster is not
paused, the kubeconfig of the identity secret, the conditions of the Harvester Deployment, the
data of the ConfigMap with the manifests, the kubeconfig for the cloud provider, and the name of
a control-plane VM that exists. -/
structure Surroundings where
  pausedRecorded : Bool
  kubeconfig : String
  deployment : List (String × Bool)
  manifests : Table String String
  cloudConfig : String
  vm : String

/-- `EnsurePausedCondition` finds the cluster not paused, and records that if it has to. -/
def notPaused (recorded : Bool) (x : PausedResult) : Bool :=
  x.isPaused = false ∧ x.requeue = !recorded ∧ x.err = none

theorem notPaused_eq_true {recorded : Bool} {x : PausedResult} (h : notPaused recorded x = true) :
    x.isPaused = false ∧ x.requeue = !recorded ∧ x.err = none := of_decide_eq_true h

def referencedPools (c : HarvesterCluster) : List String :=
  (c.spec.vmNetworkConfig.map VMNetworkConfig.getIPPoolRefs).getD []

/-- The call succeeds. A generated pool may still be missing and the load balancer may be there
already; the target namespace, the hosts and Fleet may fail as they like. -/
def succeeds (e : Surroundings) (c : HarvesterCluster) : (r : Req) → Resp r → Bool
  | .getCluster, x => Except.isOk x
  | .getOwnerCluster, x => okWith Option.isSome x
  | .ensurePausedCondition _ _, x => notPaused e.pausedRecorded x
  | .getIdentitySecret _, x => okWith (· = e.kubeconfig) x
  | .getHarvesterDeployment, x => okWith (· = e.deployment) x
  | .patchConditions _ _, x => Except.isOk x
  | .patchObject _, x => Except.isOk x
  | .patchStatus _, x => Except.isOk x
  | .getPool _, .ok _ => true
  | .getPool _, .error err => err.isNotFound && referencedPools c = []
  | .createPool _ _, x => Except.isOk x
  | .listMachines _, x => okWith (fun machines => machines.any fun m => m.name = e.vm) x
  | .getVM n, x => n.name ≠ e.vm || Except.isOk x
  | .createLoadBalancer _ _, .ok _ => true
  | .createLoadBalancer _ _, .error err => err.isAlreadyExists
  | .getLoadBalancer _, x => okWith (fun lb => lb.address ≠ "") x
  | .getConfigMap _, x => okWith (fun stored => stored.val = e.manifests) x
  | .getCloudConfigB64 _ _ _, x => okWith (· = e.cloudConfig) x
  | .updateConfigMap _ _, x => Except.isOk x
  | _, _ => true

def Succeeding (k : ObjectKey) (e : Surroundings) (c : HarvesterCluster)
    (t : Option HarvesterCluster) (r : Req) (x : Resp r) (t' : Option HarvesterCluster) : Prop :=
  Calls k t r x t' ∧ succeeds e c r x = true

def Served (c : HarvesterCluster) : Prop :=
  c.status.ready = true ∧ c.spec.controlPlaneEndpoint.host ≠ ""

instance (c : HarvesterCluster) : Decidable (Served c) := inferInstanceAs (Decidable (_ ∧ _))

def readable (ext : Externals) (e : Surroundings) : Bool :=
  (getHarvesterServerFromKubeconfig ext e.kubeconfig).isOk

def connects (ext : Externals) (e : Surroundings) : Bool :=
  readable ext e && (ext.restConfigFromKubeConfig e.kubeconfig).isOk &&
    (ext.newKubeClient e.kubeconfig).isOk && isHarvesterAvailable e.deployment

def rewritable (ext : Externals) (e : Surroundings) (cfg : UpdateCloudProviderConfig) : Bool :=
  cfg.manifestsConfigMapName ≠ "" && cfg.manifestsConfigMapNamespace ≠ "" &&
    match e.manifests.lookup cfg.manifestsConfigMapKey, ext.decodeBase64 e.cloudConfig with
    | some manifest, .ok bytes => (ext.modifyYAMLString manifest
        cfg.cloudConfigCredentialsSecretName "kube-system" cfg.cloudConfigCredentialsSecretKey
        bytes).isOk
    | _, _ => false

/-- The configuration of the cloud provider is done, not wanted, or can be written. -/
def configurable (ext : Externals) (e : Surroundings) (c : HarvesterCluster) : Bool :=
  c.status.conditions.isTrue "CloudProviderConfigReady" ||
    c.spec.updateCloudProviderConfig = ⟨"", "", "", "", ""⟩ ||
    rewritable ext e c.spec.updateCloudProviderConfig

/-- The pass keeps a cluster served, or looks at its load balancer. -/
def Recovers (ext : Externals) (e : Surroundings) (c : HarvesterCluster) : Prop :=
  (e.pausedRecorded = true → readable ext e = true) ∧
    (Served c ∨ e.pausedRecorded = true ∧ connects ext e = true ∧
      (ext.newHarvesterClient e.kubeconfig).isOk = true ∧ configurable ext e c = true ∧
      lbReady c.status.conditions = false)

instance (ext : Externals) (e : Surroundings) (c : HarvesterCluster) :
    Decidable (Recovers ext e c) :=
  inferInstanceAs (Decidable ((_ → _) ∧ (_ ∨ _)))

/-- Admission asks for a pool. -/
theorem Admitted.pool {spec : HarvesterClusterSpec} (h : Admitted spec)
    {vmNetCfg : VMNetworkConfig} (hcfg : spec.vmNetworkConfig = some vmNetCfg)
    (hrefs : vmNetCfg.getIPPoolRefs = []) : vmNetCfg.ipPool ≠ none := by
  intro hpool
  unfold Admitted validateHarvesterCluster at h
  dsimp only at h
  have hvm := (List.append_eq_nil_iff.mp h).2
  rw [hcfg] at hvm
  have hpools := (List.append_eq_nil_iff.mp (List.append_eq_nil_iff.mp hvm).1).1
  rw [if_pos ⟨hrefs, hpool⟩] at hpools
  cases hpools

namespace Recovery

structure Kept (c s : HarvesterCluster) : Prop extends Frame c s where
  configured : s.status.conditions.isTrue "CloudProviderConfigReady" =
    c.status.conditions.isTrue "CloudProviderConfigReady"
  cloudConfig : s.spec.updateCloudProviderConfig = c.spec.updateCloudProviderConfig

structure Begun (c s : HarvesterCluster) : Prop extends Kept c s where
  deleting : s.deleting = c.deleting
  finalizers : s.finalizers = c.finalizers
  vmNetworkConfig : s.spec.vmNetworkConfig = c.spec.vmNetworkConfig

variable {ext : Externals} {e : Surroundings} {sc : Scope} {c s : HarvesterCluster}

theorem Kept.refl (c : HarvesterCluster) : Kept c c := ⟨⟨rfl, rfl, rfl⟩, rfl, rfl⟩

theorem Begun.refl (c : HarvesterCluster) : Begun c c := ⟨.refl c, rfl, rfl, rfl⟩

theorem served_congr (h : Frame c s) : Served s ↔ Served c := by
  rw [Served, Served, h.ready, h.endpoint]

theorem frame_setCondition (h : Frame c s) (cond : Condition) {type : String}
    (hlb : "LoadBalancerReady" ≠ type) :
    Frame c { s with status := { s.status with
      conditions := s.status.conditions.set type cond } } := by
  refine ⟨h.ready, h.endpoint, ?_⟩
  rw [← h.lbReady]
  exact Conditions.isTrue_lookup (by rw [Conditions.lookup_set, if_neg hlb])

/-- A condition that the phase does not read is set. -/
theorem Kept.setCondition (h : Kept c s) (cond : Condition) {type : String}
    (hlb : "LoadBalancerReady" ≠ type) (hcfg : "CloudProviderConfigReady" ≠ type) :
    Kept c { s with status := { s.status with
      conditions := s.status.conditions.set type cond } } := by
  refine ⟨frame_setCondition h.toFrame cond hlb, ?_, h.cloudConfig⟩
  rw [← h.configured]
  exact Conditions.isTrue_lookup (by rw [Conditions.lookup_set, if_neg hcfg])

theorem Begun.connection (h : Begun c s) (cond : Condition) :
    Begun c { s with status := { s.status with
      conditions := s.status.conditions.set "HarvesterConnectionReady" cond } } :=
  ⟨h.toKept.setCondition cond (by decide) (by decide), h.deleting, h.finalizers,
    h.vmNetworkConfig⟩

theorem Begun.server (h : Begun c s) (server : String) :
    Begun c { s with spec := { s.spec with server := server } } :=
  ⟨⟨⟨h.ready, h.endpoint, h.lbReady⟩, h.configured, h.cloudConfig⟩, h.deleting, h.finalizers,
    h.vmNetworkConfig⟩

def Decided (b : Bool) (out : Option (Except String Unit)) : Prop :=
  (b = true ∧ out = some (.ok ())) ∨ b = false ∧ ∃ err, out = some (.error err)

theorem not_decided_none {b : Bool} : ¬ Decided b none := by
  rintro (⟨-, h⟩ | ⟨-, err, h⟩)
  · cases h
  · cases h

section Pass

variable {τ : Type} {R : τ → (r : Req) → Resp r → τ → Prop} {t : τ}
  (hR : ∀ {t r x t'}, R t r x t' → succeeds e c r x = true)

inductive Connection (ext : Externals) (e : Surroundings) (c : HarvesterCluster) :
    Option (Except String String) → HarvesterCluster → Prop where
  | unreadable {err : String} {s : HarvesterCluster} (unread : readable ext e = false)
      (cleared : s.status.ready = false) : Connection ext e c (some (.error err)) s
  | refused {err : String} {s : HarvesterCluster} (read : readable ext e = true)
      (refused : connects ext e = false) (begun : Begun c s) :
      Connection ext e c (some (.error err)) s
  | connected {s : HarvesterCluster} (connects : connects ext e = true) (begun : Begun c s) :
      Connection ext e c (some (.ok e.kubeconfig)) s

omit hR in
theorem leads_frame {α : Type} {k : ObjectKey} {b : Pass α} (hb : Maintains k false s b) :
    Leads R t b s fun _ _ s' => Frame s s' :=
  ((hb (View.fresh.next .getCluster (.ok s)) s (.first rfl rfl ⟨rfl, rfl⟩)).leads t).mono
    fun _ _ _ ⟨_, h⟩ => h.early rfl

theorem leads_reconcileTargetNamespace (h : Kept c s) :
    Leads R t reconcileTargetNamespace s fun _ out s' => out = some () ∧ Kept c s' := by
  have hset : ∀ {t s} (cond : Condition), Kept c s → Leads R t
      (setCondition "TargetNamespaceReady" cond) s fun _ out s' => out = some () ∧ Kept c s' :=
    fun cond h => .modify ⟨rfl, h.setCondition cond (by decide) (by decide)⟩
  refine .modify_bind (.get_bind (.request_bind fun got t₁ _ => ?_))
  have hchecking := @Kept.setCondition _ _ h ⟨.false_, "TargetNamespaceChecking",
    "Checking if target namespace exists"⟩ "TargetNamespaceReady" (by decide) (by decide)
  cases got with
  | ok u => exact hset _ hchecking
  | error err =>
    dsimp only
    split_ifs
    · refine .request_bind fun created t₂ _ => ?_
      cases created with
      | error err => exact hset _ hchecking
      | ok u => exact hset _ hchecking
    · exact hset _ hchecking

theorem leads_reconcileFailureDomains (h : Kept c s) :
    Leads R t reconcileFailureDomains s fun _ out s' => out = some () ∧ Kept c s' := by
  refine .request_bind fun got t₁ _ => ?_
  cases got with
  | error err => exact .pure ⟨rfl, h⟩
  | ok nodes =>
    exact .modify ⟨rfl, ⟨h.ready, h.endpoint, h.lbReady⟩, h.configured, h.cloudConfig⟩

theorem leads_cloudProviderReady (h : Frame c s) :
    Leads R t cloudProviderReady s fun _ out s' => out = some (.ok ()) ∧ Frame c s' :=
  .modify_bind (.pure ⟨rfl, frame_setCondition h _ (by decide)⟩)

include hR

theorem leads_reconcileHarvesterConfig :
    Leads R t (reconcileHarvesterConfig ext) c fun _ out s => Connection ext e c out s := by
  refine .modify_bind (.get_bind (.request_bind fun secret t₁ hsecret => ?_))
  obtain ⟨kubeconfig, rfl, hk⟩ := okWith_eq_true.mp (hR hsecret)
  obtain rfl := of_decide_eq_true hk
  have h := (Begun.refl c).connection ⟨.false_, "HarvesterConnectionInProgress",
    "Attempting to connect to Harvester"⟩
  dsimp only
  split
  · rename_i err hserver
    exact .modify_bind (.modify_bind (.pure (.unreadable (by rw [readable, hserver]; rfl) rfl)))
  rename_i server hserver
  have hread : readable ext e = true := by rw [readable, hserver]; rfl
  have hs := h.server server
  have refused : connects ext e = false → ∀ (cond : Condition) (err : String),
      Leads R t₁ (do setCondition "HarvesterConnectionReady" cond; pure (.error err)) _
        fun _ out s => Connection ext e c out s :=
    fun hno cond err => .modify_bind (.pure (.refused hread hno (hs.connection cond)))
  refine .modify_bind ?_
  split
  · rename_i err hrest
    exact refused (by rw [connects, hrest]; simp [Except.isOk, Except.toBool]) _ _
  split
  · rename_i err hkube
    exact refused (by rw [connects, hkube]; simp [Except.isOk, Except.toBool]) _ _
  rename_i hrest _ hkube
  refine .request_bind fun deployment t₂ hdeployment => ?_
  obtain ⟨conditions, rfl, hd⟩ := okWith_eq_true.mp (hR hdeployment)
  obtain rfl := of_decide_eq_true hd
  dsimp only
  split_ifs with havailable
  · exact .modify_bind (.pure (.refused hread (by simpa [connects] using fun _ _ _ => havailable)
      (hs.connection _)))
  · refine .modify_bind (.pure (.connected ?_ (hs.connection _)))
    simpa [connects, hread, hrest, hkube, Except.isOk, Except.toBool] using havailable

theorem leads_verifyPools (hrefs : referencedPools c ≠ []) (refs readyPools : List String) :
    Leads R t (verifyPools refs readyPools) s fun _ out s' =>
      s' = s ∧ ∃ pools, out = some (.ok pools) := by
  induction refs generalizing t readyPools with
  | nil => exact .pure ⟨rfl, readyPools, rfl⟩
  | cons ref refs ih =>
    refine .request_bind fun got t₁ hgot => ?_
    cases got with
    | error err =>
      have hmissing := hR hgot
      simp [succeeds, hrefs] at hmissing
    | ok pool => exact ih _

theorem leads_reconcileVMIPPool (hadm : Admitted c.spec) (h : Begun c s) :
    Leads R t (reconcileVMIPPool sc) s fun _ out s' => out = some (.ok ()) ∧ Kept c s' := by
  have hready : ∀ {s} (cond : Condition), Kept c s → Kept c { s with status := { s.status with
      conditions := s.status.conditions.set "VMIPPoolReady" cond } } :=
    fun cond h => h.setCondition cond (by decide) (by decide)
  have href : ∀ name, Kept c { s with spec := { s.spec with
      vmNetworkConfig := withVMPoolRef name s.spec.vmNetworkConfig } } :=
    fun _ => ⟨⟨h.ready, h.endpoint, h.lbReady⟩, h.configured, h.cloudConfig⟩
  refine .get_bind ?_
  rw [h.vmNetworkConfig]
  cases hcfg : c.spec.vmNetworkConfig with
  | none => exact .pure ⟨rfl, h.toKept⟩
  | some vmNetCfg =>
    have hrefs : referencedPools c = vmNetCfg.getIPPoolRefs := by rw [referencedPools, hcfg]; rfl
    dsimp only
    split_ifs with hany
    · refine (leads_verifyPools hR (hrefs ▸ hany) _ _).bind ?_ fun _ _ hnone => nomatch hnone.2
      rintro t₁ verified s₁ ⟨rfl, pools, hv⟩
      obtain rfl := Option.some.inj hv
      exact .modify_bind (.pure ⟨rfl, hready _ h.toKept⟩)
    · cases hpool : vmNetCfg.ipPool with
      | none => exact absurd hpool (hadm.pool hcfg (not_not.mp hany))
      | some p =>
        refine .request_bind fun existing t₁ hexisting => ?_
        cases existing with
        | ok pool => exact .modify_bind (.modify_bind (.pure ⟨rfl, hready _ (href _)⟩))
        | error err =>
          have hmissing := hR hexisting
          have hnf : err.isNotFound = true := by
            simp [succeeds] at hmissing
            exact hmissing.1
          dsimp only
          rw [if_pos hnf]
          refine .request_bind fun created t₂ hcreated => ?_
          obtain ⟨pool, rfl⟩ := isOk_eq_true (hR hcreated)
          exact .modify_bind (.modify_bind (.modify_bind (.pure ⟨rfl, hready _
            ((href _).setCondition _ (by decide) (by decide))⟩)))

theorem leads_existingInHarvester (ns : String) (machines acc : List ObjectKey)
    (h : acc ≠ [] ∨ ∃ m ∈ machines, m.name = e.vm) :
    Leads R t (existingInHarvester ns machines acc) s fun _ out s' =>
      s' = s ∧ ∃ m rest, out = some (m :: rest) := by
  induction machines generalizing t acc with
  | nil =>
    obtain ⟨m, rest, rfl⟩ := List.exists_cons_of_ne_nil (h.resolve_right nofun)
    exact .pure ⟨rfl, m, rest, rfl⟩
  | cons machine rest ih =>
    have hadd : acc ++ [machine] ≠ [] := List.append_ne_nil_of_right_ne_nil _ nofun
    refine .request_bind fun got t₁ hgot => ?_
    cases got with
    | ok u => exact ih _ (Or.inl hadd)
    | error err =>
      dsimp only
      split_ifs with hnf
      · refine ih _ (h.imp_right fun ⟨m, hm, hname⟩ => ?_)
        -- The VM that exists is not the one that was not found.
        rcases List.mem_cons.mp hm with rfl | hm
        · have hfound := hR hgot
          simp [succeeds, hname, Except.isOk, Except.toBool] at hfound
        · exact ⟨m, hm, hname⟩
      · exact ih _ (Or.inl hadd)

theorem leads_getOwnedCPHarversterMachines :
    Leads R t (getOwnedCPHarversterMachines sc) s fun _ out s' =>
      s' = s ∧ ∃ m rest, out = some (.ok (m :: rest)) := by
  refine .request_bind fun listed t₁ hlisted => ?_
  obtain ⟨machines, rfl, hvm⟩ := okWith_eq_true.mp (hR hlisted)
  have hexists : ∃ m ∈ machines, m.name = e.vm := by simpa using hvm
  refine .get_bind ((leads_existingInHarvester hR _ _ _ (Or.inr hexists)).bind ?_
    fun _ _ hnone => nomatch hnone.2)
  rintro t₂ owned s₂ ⟨rfl, m, rest, hm⟩
  obtain rfl := Option.some.inj hm
  exact .pure ⟨rfl, m, rest, rfl⟩

theorem leads_updateCloudProviderManifests (cfg : UpdateCloudProviderConfig) :
    Leads R t (updateCloudProviderManifests ext sc cfg) s fun _ out s' =>
      s' = s ∧ Decided (rewritable ext e cfg) out := by
  unfold updateCloudProviderManifests
  dsimp only
  split_ifs with hunset
  · refine .pure ⟨rfl, Or.inr ⟨?_, _, rfl⟩⟩
    rcases hunset with hname | hns
    · simp [rewritable, hname]
    · simp [rewritable, hns]
  obtain ⟨hname, hns⟩ := not_or.mp hunset
  refine .request_bind fun got t₁ hgot => ?_
  obtain ⟨stored, rfl, hdata⟩ := okWith_eq_true.mp (hR hgot)
  have hdata : stored.val = e.manifests := of_decide_eq_true hdata
  dsimp only
  rw [hdata]
  cases hmanifest : e.manifests.lookup cfg.manifestsConfigMapKey with
  | none => exact .pure ⟨rfl, Or.inr ⟨by simp [rewritable, hmanifest], _, rfl⟩⟩
  | some manifest =>
    refine .get_bind (.request_bind fun kubeconfig t₂ hkubeconfig => ?_)
    obtain ⟨b64, rfl, hb64⟩ := okWith_eq_true.mp (hR hkubeconfig)
    obtain rfl := of_decide_eq_true hb64
    dsimp only
    cases hbytes : ext.decodeBase64 e.cloudConfig with
    | error err => exact .pure ⟨rfl, Or.inr ⟨by simp [rewritable, hmanifest, hbytes], _, rfl⟩⟩
    | ok bytes =>
      dsimp only
      cases hmodified : ext.modifyYAMLString manifest cfg.cloudConfigCredentialsSecretName
          "kube-system" cfg.cloudConfigCredentialsSecretKey bytes with
      | error err =>
        refine .pure ⟨rfl, Or.inr ⟨?_, _, rfl⟩⟩
        simp [rewritable, hmanifest, hbytes, hmodified, Except.isOk, Except.toBool]
      | ok modified =>
        refine .request_bind fun updated t₃ hupdated => ?_
        obtain ⟨u, rfl⟩ := isOk_eq_true (hR hupdated)
        refine .pure ⟨rfl, Or.inl ⟨?_, rfl⟩⟩
        simp [rewritable, hmanifest, hbytes, hmodified, hname, hns, Except.isOk, Except.toBool]

theorem leads_reconcileCloudProviderConfig (h : Kept c s) :
    Leads R t (reconcileCloudProviderConfig ext sc) s fun _ out s' =>
      Frame c s' ∧ Decided (configurable ext e c) out := by
  have hcloud : ∀ {t : τ}, configurable ext e c = true → Leads R t cloudProviderReady s
      fun _ out s' => Frame c s' ∧ Decided (configurable ext e c) out :=
    fun hc => (leads_cloudProviderReady h.toFrame).mono
      fun _ _ _ hout => ⟨hout.2, Or.inl ⟨hc, hout.1⟩⟩
  refine .get_bind ?_
  rw [h.configured, h.cloudConfig]
  split_ifs with hdone hempty
  · exact .pure ⟨h.toFrame, Or.inl ⟨by simp [configurable, hdone], rfl⟩⟩
  · exact hcloud (by simp [configurable, hempty])
  · refine (leads_updateCloudProviderManifests hR _).bind ?_
      fun _ _ hnone => absurd hnone.2 not_decided_none
    rintro t₁ written s₁ ⟨rfl, ⟨hok, hout⟩ | ⟨hno, err, hout⟩⟩
    · obtain rfl := Option.some.inj hout
      exact hcloud (by simp [configurable, hok])
    · obtain rfl := Option.some.inj hout
      exact .pure ⟨h.toFrame, Or.inr ⟨by simp [configurable, hdone, hempty, hno], err, rfl⟩⟩

theorem leads_awaitLoadBalancer :
    Leads R t (awaitLoadBalancer sc) s fun _ _ s' => Served s' := by
  refine (?_ : Leads R t (createLoadBalancerIfNotExists sc) s
    fun _ out s' => s' = s ∧ out = some (.ok ())).bind ?_ fun _ _ hnone => nomatch hnone.2
  · refine .get_bind (.request_bind fun created t₁ hcreated => ?_)
    cases created with
    | ok u => exact .pure ⟨rfl, rfl⟩
    | error err =>
      have hexists : err.isAlreadyExists = true := hR hcreated
      dsimp only
      rw [if_pos hexists]
      exact .pure ⟨rfl, rfl⟩
  rintro t₁ created s₁ ⟨rfl, hcreated⟩
  obtain rfl := Option.some.inj hcreated
  refine (?_ : Leads R t₁ (getLoadBalancerIP sc) s₁
    fun _ out _ => ∃ ip, ip ≠ "" ∧ out = some (.ok ip)).bind ?_ fun _ _ ⟨_, _, h⟩ => nomatch h
  · refine .get_bind (.request_bind fun got t₂ hgot => ?_)
    obtain ⟨lb, rfl, haddress⟩ := okWith_eq_true.mp (hR hgot)
    have haddress : lb.address ≠ "" := of_decide_eq_true haddress
    dsimp only
    rw [if_neg haddress]
    exact .pure ⟨lb.address, haddress, rfl⟩
  rintro t₂ got s₂ ⟨ip, hip, hgot⟩
  obtain rfl := Option.some.inj hgot
  exact .modify_bind (.modify_bind (.modify_bind (.modify_bind (.pure ⟨rfl, hip⟩))))

theorem leads_reconcileLoadBalancer (h : Kept c s) :
    Leads R t (reconcileLoadBalancer ext sc) s fun _ _ s' => Served s' ↔
      Served c ∨ configurable ext e c = true ∧ lbReady c.status.conditions = false := by
  refine (leads_reconcileCloudProviderConfig hR h).bind ?_
    fun _ _ hnone => absurd hnone.2 not_decided_none
  rintro t₁ config s₁ ⟨hframe, ⟨hok, hout⟩ | ⟨hno, err, hout⟩⟩
  · obtain rfl := Option.some.inj hout
    refine .modify_bind (.get_bind ?_)
    have hset : ∀ {s} (cond : Condition), Frame c s → Frame c { s with status := { s.status with
        conditions := s.status.conditions.set "InfrastructureReady" cond } } :=
      fun cond h => frame_setCondition h cond (by decide)
    have hbefore := hset ⟨.false_, "InfrastructureProvisioningInProgress",
      "Infrastructure provisioning in progress"⟩ hframe
    split_ifs with hlb hready
    · refine (leads_awaitLoadBalancer hR).mono fun _ _ _ hserved => iff_of_true hserved ?_
      refine Or.inr ⟨hok, ?_⟩
      rw [← hbefore.lbReady]
      simpa [lbReady] using hlb
    all_goals
      have hdone : lbReady c.status.conditions = true := by
        rw [← hbefore.lbReady]
        simpa [lbReady] using hlb
      have hsame : ∀ {s}, Frame c s → (Served s ↔ Served c ∨ configurable ext e c = true ∧
          lbReady c.status.conditions = false) := fun h => by
        rw [served_congr h, hdone]
        simp
      have hafter := hset ⟨.true_, "InfrastructureReady",
        "All infrastructure components are ready"⟩ hbefore
      refine .modify_bind ?_
    · refine (leads_frame (running_reconcileFleetIntegration sc.key)).bind ?_ ?_
      · exact fun _ _ _ hfleet => .pure ((served_congr hfleet).trans (hsame hafter))
      · exact fun _ _ hfleet => (served_congr hfleet).trans (hsame hafter)
    · exact .pure (hsame hafter)
  · obtain rfl := Option.some.inj hout
    refine .pure ?_
    rw [served_congr hframe, hno]
    simp

theorem leads_reconcileInfrastructure (hadm : Admitted c.spec) (h : Begun c s) :
    Leads R t (reconcileInfrastructure ext sc) s fun _ _ s' => Served s' ↔
      Served c ∨ configurable ext e c = true ∧ lbReady c.status.conditions = false := by
  refine (leads_reconcileVMIPPool hR hadm h).bind ?_ fun _ _ hnone => nomatch hnone.1
  rintro t₁ pool s₁ ⟨hpool, h₁⟩
  obtain rfl := Option.some.inj hpool
  refine (leads_reconcileTargetNamespace h₁).bind ?_ fun _ _ hnone => nomatch hnone.1
  rintro t₂ - s₂ ⟨-, h₂⟩
  refine (leads_reconcileFailureDomains h₂).bind ?_ fun _ _ hnone => nomatch hnone.1
  rintro t₃ - s₃ ⟨-, h₃⟩
  refine (leads_getOwnedCPHarversterMachines hR).bind ?_ fun _ _ ⟨_, _, _, hnone⟩ => nomatch hnone
  rintro t₄ owned s₄ ⟨rfl, m, rest, howned⟩
  obtain rfl := Option.some.inj howned
  exact leads_reconcileLoadBalancer hR h₃

theorem leads_reconcileBody {k : ObjectKey} (hadm : Admitted c.spec) (hd : c.deleting = false)
    (hf : clusterFinalizer ∈ c.finalizers) :
    Leads R t (reconcileBody ext k) c fun _ _ s => Served s ↔ Recovers ext e c := by
  refine .request_bind fun owner t₁ howner => ?_
  obtain ⟨owner, rfl, hsome⟩ := okWith_eq_true.mp (hR howner)
  obtain ⟨owner, rfl⟩ := Option.isSome_iff_exists.mp hsome
  refine .get_bind (.request_bind fun (paused : PausedResult) t₂ hpaused => ?_)
  obtain ⟨hlive, hrequeue, herr⟩ := notPaused_eq_true (hR hpaused)
  cases hrecorded : e.pausedRecorded with
  | false =>
    rw [hrecorded] at hrequeue
    have hstop : paused.requeue = true := hrequeue
    rw [if_pos (Or.inr (Or.inr hstop))]
    refine (leads_frame (Maintains.recordPaused (k := k) paused)).bind
      (fun _ _ _ hframe => .pure ?_) fun _ _ hframe => ?_
    all_goals
      rw [served_congr hframe]
      simp [Recovers, hrecorded]
  | true =>
    rw [hrecorded] at hrequeue
    rw [if_neg (by simp [hlive, hrequeue, herr])]
    refine (leads_reconcileHarvesterConfig hR).bind ?_ fun _ _ hnone => nomatch hnone
    intro t₃ config s₃ hconnection
    cases hconnection with
    | unreadable hunread hcleared =>
      exact .pure (by simp [Recovers, hrecorded, hunread, Served, hcleared])
    | refused hread hrefused hbegun =>
      refine .pure ?_
      rw [served_congr hbegun.toFrame]
      simp [Recovers, hread, hrefused]
    | connected hconnects hbegun =>
      have hread : readable ext e = true := by
        simp only [connects, Bool.and_eq_true] at hconnects
        exact hconnects.1.1.1
      dsimp only
      split
      · rename_i err hclient
        refine .pure ?_
        rw [served_congr hbegun.toFrame]
        simp [Recovers, hread, hclient, Except.isOk, Except.toBool]
      · rename_i hclient
        refine .get_bind ?_
        rw [hbegun.deleting, hd, if_neg Bool.false_ne_true]
        unfold reconcileNormal
        refine .get_bind ?_
        rw [hbegun.finalizers, if_neg fun hlegacy => hlegacy.2 hf, if_neg (not_not.mpr hf)]
        refine (leads_reconcileInfrastructure hR hadm hbegun).mono fun _ _ s hs => ?_
        rw [hs]
        simp [Recovers, hrecorded, hread, hconnects, hclient, Except.isOk, Except.toBool]

end Pass

end Recovery

section Patch

variable {k : ObjectKey} {e : Surroundings} {c c₀ s : HarvesterCluster}
  {t t' o : Option HarvesterCluster} {err : Option String}

theorem Answers.patchConditions {b a : Conditions}
    (h : Answers k (some c) (.patchConditions b a) (.ok ()) o) :
    ∃ cs, o = some { c with status := { c.status with conditions := cs } } := by
  obtain ⟨w, f, hw, hx, rfl⟩ := h
  have hout : w.patchConditions k b a = .ok ((), (exec k (.patchConditions b a) f w).2) :=
    Fault.write_eq_ok hx
  unfold World.patchConditions at hout
  rw [hw] at hout
  dsimp only at hout
  split at hout
  · cases hout
  · rename_i cs _
    rw [← (Prod.mk.inj (Except.ok.inj hout)).2, lookup_setCluster, if_pos rfl]
    exact ⟨cs, rfl⟩

theorem Answers.patchObject {p : ObjectPatch} (hd : c.deleting = false)
    (h : Answers k (some c) (.patchObject p) (.ok ()) o) : o = some (p.apply c) := by
  obtain ⟨w, f, hw, hx, rfl⟩ := h
  have hout : w.patchObject k p = .ok ((), (exec k (.patchObject p) f w).2) :=
    Fault.write_eq_ok hx
  unfold World.patchObject at hout
  rw [hw] at hout
  dsimp only at hout
  rw [hd] at hout
  split_ifs at hout with _ _ hadds hlast
  · exact hlast.1.elim
  · rw [← (Prod.mk.inj (Except.ok.inj hout)).2, lookup_setCluster, if_pos rfl]

theorem Answers.patchStatus {p : StatusPatch}
    (h : Answers k (some c) (.patchStatus p) (.ok ()) o) :
    o = some { c with status := p.apply c.status } := by
  obtain ⟨w, f, hw, hx, rfl⟩ := h
  have hout : w.patchStatus k p = .ok ((), (exec k (.patchStatus p) f w).2) :=
    Fault.write_eq_ok hx
  unfold World.patchStatus at hout
  rw [hw] at hout
  rw [← (Prod.mk.inj (Except.ok.inj hout)).2, lookup_setCluster, if_pos rfl]

theorem stored_sendConditions (ht : t = some c)
    (he : Executes (Succeeding k e c₀) t (sendConditions c₀ s) t' err) :
    ∃ cs, t' = some { c with status := { c.status with conditions := cs } } := by
  unfold sendConditions at he
  split_ifs at he
  · obtain ⟨rfl, -⟩ := Prog.executes_pure he
    exact ⟨c.status.conditions, ht⟩
  · obtain ⟨x, t₁, ⟨⟨hcall, -⟩, hok⟩, he⟩ := Prog.executes_request_bind he
    obtain ⟨u, rfl⟩ := isOk_eq_true hok
    obtain ⟨rfl, -⟩ := Prog.executes_pure he
    exact Answers.patchConditions (ht ▸ hcall)

theorem stored_sendObject (hd : c.deleting = false)
    (hsame : c.spec.controlPlaneEndpoint = c₀.spec.controlPlaneEndpoint) (ht : t = some c)
    (he : Executes (Succeeding k e c₀) t (sendObject c₀ s) t' err) :
    ∃ c', t' = some c' ∧ c'.status = c.status ∧
      c'.spec.controlPlaneEndpoint = s.spec.controlPlaneEndpoint := by
  unfold sendObject at he
  split_ifs at he with hkeep
  · obtain ⟨rfl, -⟩ := Prog.executes_pure he
    exact ⟨c, ht, rfl, by rw [hsame, hkeep.2]⟩
  · obtain ⟨x, t₁, ⟨⟨hcall, -⟩, hok⟩, he⟩ := Prog.executes_request_bind he
    obtain ⟨u, rfl⟩ := isOk_eq_true hok
    obtain ⟨rfl, -⟩ := Prog.executes_pure he
    refine ⟨_, Answers.patchObject hd (ht ▸ hcall), rfl, ?_⟩
    show (changedTo c₀.spec.controlPlaneEndpoint s.spec.controlPlaneEndpoint).getD
      c.spec.controlPlaneEndpoint = _
    rw [hsame, getD_changedTo]

theorem stored_sendStatus (hready : c.status.ready = c₀.status.ready)
    (hprovisioned : c.status.provisioned = c₀.status.provisioned) (ht : t = some c)
    (he : Executes (Succeeding k e c₀) t (sendStatus c₀ s) t' err) :
    ∃ c', t' = some c' ∧ c'.spec = c.spec ∧ c'.status.ready = s.status.ready ∧
      c'.status.provisioned = s.status.provisioned := by
  unfold sendStatus at he
  split_ifs at he with hkeep
  · obtain ⟨rfl, -⟩ := Prog.executes_pure he
    exact ⟨c, ht, rfl, by rw [hready, hkeep], by rw [hprovisioned, hkeep]⟩
  · obtain ⟨x, t₁, ⟨⟨hcall, -⟩, hok⟩, he⟩ := Prog.executes_request_bind he
    obtain ⟨u, rfl⟩ := isOk_eq_true hok
    obtain ⟨rfl, -⟩ := Prog.executes_pure he
    refine ⟨_, Answers.patchStatus (ht ▸ hcall), rfl, ?_, ?_⟩
    · show (changedTo c₀.status.ready s.status.ready).getD c.status.ready = _
      rw [hready, getD_changedTo]
    · show (changedTo c₀.status.provisioned s.status.provisioned).getD c.status.provisioned = _
      rw [hprovisioned, getD_changedTo]

/-- With every part accepted, the endpoint and the two flags are stored as they are in memory. -/
theorem stored_patchHelper (hd : c₀.deleting = false) (hsame : SameButPaused c₀ c)
    (ht : t = some c) (he : Executes (Succeeding k e c₀) t (patchHelper c₀ s) t' err) :
    ∃ c', t' = some c' ∧ c'.status.ready = s.status.ready ∧
      c'.status.provisioned = s.status.provisioned ∧
      c'.spec.controlPlaneEndpoint = s.spec.controlPlaneEndpoint := by
  obtain ⟨t₁, e₁, h₁, he⟩ := Prog.executes_bind.mp he
  obtain ⟨t₂, e₂, h₂, he⟩ := Prog.executes_bind.mp he
  obtain ⟨t₃, e₃, h₃, he⟩ := Prog.executes_bind.mp he
  obtain ⟨rfl, -⟩ := Prog.executes_pure he
  obtain ⟨cs, hc₁⟩ := stored_sendConditions ht h₁
  have hd₁ : { c with status := { c.status with conditions := cs } }.deleting = false := by
    rw [hsame.eq]
    exact hd
  obtain ⟨c₂, hc₂, hstatus, hendpoint⟩ := stored_sendObject hd₁ (by rw [hsame.eq]) hc₁ h₂
  obtain ⟨c₃, hc₃, hspec, hready, hprovisioned⟩ :=
    stored_sendStatus (by rw [hstatus, hsame.eq]) (by rw [hstatus, hsame.eq]) hc₂ h₃
  exact ⟨c₃, hc₃, hready, hprovisioned, by rw [hspec, hendpoint]⟩

end Patch

def AllAdmitted (w : World) : Prop := ∀ k c, w.clusters.lookup k = some c → Admitted c.spec

section Admission

variable {ext : Externals} {w w' : World} {k : ObjectKey} {c : HarvesterCluster}

theorem AllAdmitted.of_clusters (h : AllAdmitted w) (hw : w'.clusters = w.clusters) :
    AllAdmitted w' := by
  intro j c hc
  rw [hw] at hc
  exact h j c hc

theorem AllAdmitted.insert (h : AllAdmitted w) (hw : w'.clusters = w.clusters.insert k c)
    (hc : Admitted c.spec) : AllAdmitted w' := by
  intro j c' hc'
  rw [hw, Table.lookup_insert_eq] at hc'
  split_ifs at hc'
  · exact Option.some.inj hc' ▸ hc
  · exact h j c' hc'

theorem AllAdmitted.erase (h : AllAdmitted w) (hw : w'.clusters = w.clusters.erase k) :
    AllAdmitted w' := by
  intro j c hc
  rw [hw, Table.lookup_erase_eq] at hc
  split_ifs at hc
  exact h j c hc

theorem Effect.allAdmitted {v v' : View} {r : Req} {x : Resp r} (he : Effect k w v r x w' v')
    (h : AllAdmitted w) : AllAdmitted w' := by
  cases he with
  | elsewhere hclusters _ _ => exact h.of_clusters hclusters
  | createPool _ _ _ _ => exact h.of_clusters (note_clusters _ _ _ _)
  | deletePool _ _ _ => exact h.of_clusters (note_clusters _ _ _ _)
  | patchConditions _ _ _ _ hs _ =>
    have hadm := h _ _ hs
    exact h.insert rfl hadm
  | patchObject _ _ _ _ _ hadm => exact h.insert rfl hadm
  | patchObjectLast _ _ _ _ _ => exact h.erase rfl
  | patchStatus _ hs =>
    have hadm := h _ _ hs
    exact h.insert rfl hadm
  | pause hs =>
    have hadm := h _ _ hs
    exact h.insert rfl hadm
  | _ => exact h.of_clusters rfl

theorem EnvEffect.allAdmitted {e : Env} (he : EnvEffect w e w') (h : AllAdmitted w) :
    AllAdmitted w' := by
  cases he with
  | elsewhere hclusters _ _ => exact h.of_clusters hclusters
  | createCluster _ hadm => exact h.insert rfl hadm
  | editCluster _ hadm => exact h.insert rfl hadm
  | eraseCluster _ _ => exact h.erase rfl
  | markCluster hs =>
    have hadm := h _ _ hs
    exact h.insert rfl hadm
  | patchClusterStatus hs =>
    have hadm := h _ _ hs
    exact h.insert rfl hadm
  | _ => exact h.of_clusters rfl

theorem allAdmitted_preserves :
    (system ext).Preserves contract (fun _ _ _ => True) fun w _ => AllAdmitted w :=
  preserves_of_effects (fun _ _ h => h) (fun _ he _ h => he.allAdmitted h)
    fun _ he _ h => he.allAdmitted h

end Admission

def Provisioned (c : HarvesterCluster) : Prop := Served c ∧ c.status.provisioned = true

instance (c : HarvesterCluster) : Decidable (Provisioned c) := inferInstanceAs (Decidable (_ ∧ _))

/-- In every reachable state, a pass in which every call succeeds leaves the cluster provisioned
exactly when the kubeconfig is readable and either the cluster was served before or the pass looks
at the load balancer again, which it does not once LoadBalancerReady is True. -/
theorem provisioned_iff_recovers (ext : Externals) (k : ObjectKey) (e : Surroundings)
    {s : ClusterState} (hs : Starts s) (hadm : AllAdmitted s.world) (acts : List ClusterAction)
    {c : HarvesterCluster} (hc : ((system ext).run s acts).world.clusters.lookup k = some c)
    (hd : c.deleting = false) (hf : clusterFinalizer ∈ c.finalizers)
    {t : Option HarvesterCluster} {out : Outcome}
    (hpass : Executes (Succeeding k e c) (some c) (reconcile ext k) t out) :
    (∃ c' ∈ t, Provisioned c') ↔ Recovers ext e c := by
  have hadmitted : Admitted c.spec := (allAdmitted_preserves.run (keeps_contract ext) hs.conforms
    hadm (Controller.admissible_of_forall fun _ _ _ => trivial)).1 k c hc
  obtain ⟨got, t₀, ⟨hget, hok⟩, hpass⟩ := Prog.executes_request_bind hpass
  obtain ⟨c₀, rfl⟩ := isOk_eq_true hok
  obtain ⟨rfl, hread, -⟩ := Answers.getCluster hget.1
  obtain rfl := Option.some.inj (hread c₀ rfl)
  obtain ⟨t₁, ⟨res, s₁⟩, hbody, hpass⟩ := Prog.executes_bind.mp hpass
  obtain ⟨t₂, err, hpatch, hpass⟩ := Prog.executes_bind.mp hpass
  have hserved : Served s₁ ↔ Recovers ext e c :=
    Recovery.leads_reconcileBody (fun h => h.2) hadmitted hd hf t₁ (res, s₁) hbody
  obtain ⟨c₁, hunpatched, hsame⟩ := stored_of_executes_body (hbody.mono fun h => h.1)
  obtain ⟨c', hc', hready, hprovisioned, hendpoint⟩ :=
    stored_patchHelper hd hsame hunpatched hpatch
  have ht : t = t₂ := by
    cases res with
    | none => exact (Prog.executes_pure hpass).1
    | some out => exact (Prog.executes_pure hpass).1
  have hserved' : Served c' ↔ Served s₁ := by
    rw [Served, Served, hready, hendpoint]
    rfl
  rw [ht, hc', ← hserved, ← hserved']
  constructor
  · rintro ⟨c'', hc'', hp⟩
    obtain rfl := Option.some.inj hc''
    exact hp.1
  · intro h
    refine ⟨c', rfl, h, ?_⟩
    rw [hprovisioned]
    exact hready.symm.trans h.1

namespace Sample

def told : Surroundings := ⟨true, "kubeconfig", [("Available", true)], ∅, "", "x"⟩

def good (u : ClusterState) (t : Option HarvesterCluster) (r : Req) : Bool :=
  attends u t r && succeeds told (storedX u) r (server u t r).1

theorem succeeding_server (u : ClusterState) (t : Option HarvesterCluster) (r : Req)
    (h : good u t r = true) :
    Succeeding keyX told (storedX u) t r (server u t r).1 (server u t r).2 := by
  obtain ⟨hattends, hok⟩ := Bool.and_eq_true_iff.mp h
  exact ⟨calls_server u t r hattends, hok⟩

theorem allAdmitted_empty : AllAdmitted empty.world := fun _ _ h => nomatch h

def await : List ClusterAction :=
  created keyX [clusterFinalizer] spec ++ .env (.putMachine keyX ⟨some "x", true⟩) ::
    pass keyX ++ [.env (.setAddress ⟨"target", "ns-x-lb"⟩ "10.0.0.9")]

def waiting : ClusterState := (system ext).run empty await

end Sample

open Sample in
theorem provisioned_sample : ∃ t out,
    Executes (Succeeding keyX told (storedX waiting)) (some (storedX waiting))
      (reconcile ext keyX) t out ∧ ∃ c' ∈ t, Provisioned c' := by
  obtain ⟨hcomplies, hstored, hd, hf, hrecovers⟩ :
      Prog.Complies (server waiting) (fun t r => good waiting t r)
        (some (storedX waiting)) (reconcile ext keyX) ∧
      waiting.world.clusters.lookup keyX = some (storedX waiting) ∧
      (storedX waiting).deleting = false ∧ clusterFinalizer ∈ (storedX waiting).finalizers ∧
      Recovers ext told (storedX waiting) := by decide +kernel
  have hrun := Prog.Complies.executes (succeeding_server waiting) hcomplies
  exact ⟨_, _, hrun, (provisioned_iff_recovers ext keyX told starts_empty allAdmitted_empty await
    hstored hd hf hrun).mpr hrecovers⟩

open Sample in
/-- After one pass without the identity secret, a cluster whose load balancer was found ready is
not ready again, whatever succeeds. -/
theorem readiness_lost : ∃ t out,
    interrupted.world.clusters.lookup keyX = some (storedX interrupted) ∧
    (storedX interrupted).deleting = false ∧ clusterFinalizer ∈ (storedX interrupted).finalizers ∧
    Executes (Succeeding keyX told (storedX interrupted)) (some (storedX interrupted))
      (reconcile ext keyX) t out ∧ ¬ ∃ c' ∈ t, Provisioned c' := by
  obtain ⟨hcomplies, hstored, hd, hf, hlost⟩ :
      Prog.Complies (server interrupted) (fun t r => good interrupted t r)
        (some (storedX interrupted)) (reconcile ext keyX) ∧
      interrupted.world.clusters.lookup keyX = some (storedX interrupted) ∧
      (storedX interrupted).deleting = false ∧
      clusterFinalizer ∈ (storedX interrupted).finalizers ∧
      ¬ ∃ c' ∈ (passX interrupted).2, Provisioned c' := by decide +kernel
  have hrun : Executes (Succeeding keyX told (storedX interrupted)) _ (reconcile ext keyX)
      (passX interrupted).2 (passX interrupted).1 :=
    Prog.Complies.executes (succeeding_server interrupted) hcomplies
  exact ⟨_, _, hstored, hd, hf, hrun, hlost⟩

end Caphv.Cluster
