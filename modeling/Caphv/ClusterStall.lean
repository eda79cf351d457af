import Caphv.ClusterObservers
import Caphv.PoolOwnership
import Caphv.ResourceNames

namespace Caphv.Cluster

open Prog (Executes)
open Body (Leads May)

/-- A call of a pass of cluster `k`, answered in some world: what is stored of the cluster before
it, the response, and what is stored after it. -/
def Answers (k : ObjectKey) (t : Option HarvesterCluster) (r : Req) (x : Resp r)
    (t' : Option HarvesterCluster) : Prop :=
  ∃ (w : World) (a : Answer r), w.clusters.lookup k = t ∧ (exec k r a w).1 = x ∧
    (exec k r a w).2.clusters.lookup k = t'

section Answers

variable {k : ObjectKey} {t t' : Option HarvesterCluster} {v : View}

theorem Answers.getCluster {x : Except ApiError HarvesterCluster}
    (h : Answers k t .getCluster x t') : t' = t ∧ (∀ c, x = .ok c → t = some c) ∧
      ∀ e, x = .error e → e.isNotFound = true → t = none := by
  obtain ⟨w, a, rfl, hx, rfl⟩ := h
  have hx : Fault.reply a (found (w.clusters.lookup k)) = x := hx
  refine ⟨rfl, fun c hc => found_eq_ok (Fault.reply_eq_ok (hx.trans hc)), fun e he hnf => ?_⟩
  exact found_eq_notFound (Fault.isNotFound_of_reply (hx.trans he) hnf)

/-- Before its patches, a pass changes at most the Paused condition of the stored cluster. -/
theorem Effect.stored_of_unpatched {w w' : World} {r : Req} {x : Resp r} {v' : View}
    (he : Effect k w v r x w' v') (hp : v'.patching = false) {c : HarvesterCluster}
    (hc : w.clusters.lookup k = some c) :
    ∃ c', w'.clusters.lookup k = some c' ∧ SameButPaused c c' := by
  have hsame : w'.clusters = w.clusters →
      ∃ c', w'.clusters.lookup k = some c' ∧ SameButPaused c c' := fun h =>
    ⟨c, h ▸ hc, .refl c⟩
  cases he with
  | elsewhere hclusters _ _ => exact hsame hclusters
  | createPool _ _ _ _ => exact hsame (note_clusters _ _ _ _)
  | deletePool _ _ _ => exact hsame (note_clusters _ _ _ _)
  | patchConditions _ _ _ _ _ _ => cases hp
  | patchObject _ _ _ _ _ _ => cases hp
  | patchObjectLast _ _ _ _ _ => cases hp
  | patchStatus _ _ => cases hp
  | pause hs =>
    obtain rfl := Option.some.inj (hs.symm.trans hc)
    exact ⟨_, by rw [lookup_setCluster, if_pos rfl], .markPaused _ _⟩
  | _ => exact hsame rfl

theorem Answers.unpatched {r : Req} {x : Resp r} {c : HarvesterCluster}
    (h : Answers k (some c) r x t') (hg : Guard k v r) (hp : (v.next r x).patching = false) :
    ∃ c', t' = some c' ∧ SameButPaused c c' := by
  obtain ⟨w, a, hc, rfl, rfl⟩ := h
  exact (exec_effect r a hg).stored_of_unpatched hp hc

/-- A pass that has not sent a patch had not sent one before. -/
theorem patching_of_next {r : Req} {x : Resp r} (h : (v.next r x).patching = false) :
    v.patching = false := by
  unfold View.next at h
  split at h
  all_goals try split_ifs at h
  all_goals first | exact h | cases h

def soloWorld (k : ObjectKey) (c : HarvesterCluster) : World :=
  ⟨(∅ : Table ObjectKey HarvesterCluster).insert k c, ∅, ∅, ∅, ∅, ∅, ∅, []⟩

theorem lookup_soloWorld (k : ObjectKey) (c : HarvesterCluster) :
    (soloWorld k c).clusters.lookup k = some c := AList.lookup_insert _

end Answers

def attended : (r : Req) → Resp r → Bool
  | .getOwnerCluster, .ok none => false
  | .ensurePausedCondition _ _, x => !PausedResult.isPaused x
  | _, _ => true

def Calls (k : ObjectKey) (t : Option HarvesterCluster) (r : Req) (x : Resp r)
    (t' : Option HarvesterCluster) : Prop :=
  Answers k t r x t' ∧ attended r x = true

section Zero

variable {τ : Type} {R : τ → (r : Req) → Resp r → τ → Prop} {t : τ} {ext : Externals}
  {sc : Scope} {c s : HarvesterCluster} {v : View}

def zero : Outcome := (.empty, none)

theorem error_ne_zero (res : Result) (e : String) :
    (some (res, some e) : Option Outcome) ≠ some zero :=
  nofun

theorem after_ne_zero {n : ℕ} (hn : n ≠ 0) (e : Option String) :
    (some (.after n, e) : Option Outcome) ≠ some zero := fun h =>
  hn (congrArg Result.requeueAfter (Prod.mk.inj (Option.some.inj h)).1)

theorem leads_any {α : Type} (b : Pass α) : Leads R t b s fun _ _ _ => True :=
  fun _ _ _ => trivial

theorem leads_createPlaceholder :
    Leads R t (createPlaceholder ext sc) s fun _ out _ => out ≠ some zero := by
  refine .get_bind ((leads_any _).bind (fun t lbIP s _ => ?_) fun _ _ _ => nofun)
  cases lbIP with
  | error e => exact .pure (error_ne_zero _ _)
  | ok ip =>
    refine .request_bind fun created t' _ => ?_
    cases created with
    | ok u => exact .pure (after_ne_zero (by decide) _)
    | error e =>
      dsimp only
      split_ifs
      · exact .pure (error_ne_zero _ _)
      · exact .pure (error_ne_zero _ _)

theorem leads_refreshPlaceholder (svc : Versioned Service) :
    Leads R t (refreshPlaceholder ext sc svc) s fun _ out _ => out ≠ some zero := by
  refine .get_bind ?_
  split_ifs
  · refine (leads_any _).bind (fun t newIP s _ => ?_) fun _ _ _ => nofun
    cases newIP with
    | error e => exact .pure (error_ne_zero _ _)
    | ok ip =>
      refine .request_bind fun updated t' _ => ?_
      cases updated with
      | error e => exact .pure (error_ne_zero _ _)
      | ok u => exact .pure (by decide)
  · exact .pure (after_ne_zero (by decide) _)

theorem leads_reconcilePlaceholder :
    Leads R t (reconcilePlaceholder ext sc) s fun _ out _ => out ≠ some zero := by
  refine .get_bind (.request_bind fun existing t' _ => ?_)
  cases existing with
  | error e =>
    dsimp only
    split_ifs
    · exact leads_createPlaceholder
    · exact .pure (error_ne_zero _ _)
  | ok svc =>
    dsimp only
    split
    · exact leads_refreshPlaceholder svc
    · split_ifs
      · exact leads_refreshPlaceholder svc
      · exact .modify_bind (.modify_bind (.pure (after_ne_zero (by decide) _)))

theorem leads_awaitLoadBalancer :
    Leads R t (awaitLoadBalancer sc) s fun _ out _ => out ≠ some zero := by
  refine (leads_any _).bind (fun t created s _ => ?_) fun _ _ _ => nofun
  cases created with
  | error e => exact .modify_bind (.pure (error_ne_zero _ _))
  | ok u =>
    refine (leads_any _).bind (fun t got s _ => ?_) fun _ _ _ => nofun
    cases got with
    | error e => exact .modify_bind (.pure (error_ne_zero _ _))
    | ok lbIP =>
      exact .modify_bind (.modify_bind (.modify_bind (.modify_bind
        (.pure (after_ne_zero (by decide) _)))))

end Zero

/-- Every client can be made of the kubeconfig. -/
structure UsableKubeconfig (ext : Externals) (kubeconfig : String) : Prop where
  server : ∃ server, getHarvesterServerFromKubeconfig ext kubeconfig = .ok server
  rest : ext.restConfigFromKubeConfig kubeconfig = .ok ()
  kube : ext.newKubeClient kubeconfig = .ok ()

/-- The pools of the VMs are named, or one can be generated. -/
def PoolsGiven (cfg : Option VMNetworkConfig) : Prop :=
  ∀ vmNetCfg ∈ cfg, if vmNetCfg.getIPPoolRefs = [] then vmNetCfg.ipPool ≠ none
    else "" ∉ vmNetCfg.getIPPoolRefs

/-- Some manifest can be rewritten with some credentials. -/
def Writable (ext : Externals) (cfg : UpdateCloudProviderConfig) : Prop :=
  cfg.manifestsConfigMapName ≠ "" ∧ cfg.manifestsConfigMapNamespace ≠ "" ∧
    ∃ manifest b64 bytes modified, ext.decodeBase64 b64 = .ok bytes ∧
      ext.modifyYAMLString manifest cfg.cloudConfigCredentialsSecretName "kube-system"
        cfg.cloudConfigCredentialsSecretKey bytes = .ok modified

/-- The configuration of the cloud provider is done, not wanted, or can be written. -/
def Configurable (ext : Externals) (c : HarvesterCluster) : Prop :=
  c.status.conditions.isTrue "CloudProviderConfigReady" = true ∨
    c.spec.updateCloudProviderConfig = ⟨"", "", "", "", ""⟩ ∨
    Writable ext c.spec.updateCloudProviderConfig

/-- What is stored lets a pass come to its end with nothing to do: it is on record that the cluster
is not paused, a kubeconfig can be used, and with the finalizer in place the pools and the
configuration of the cloud provider stand in no way and the load balancer was found ready. -/
structure CanRest (ext : Externals) (c : HarvesterCluster) : Prop where
  unpaused : ∃ p ∈ c.status.conditions.lookup "Paused", p.status ≠ .true_
  connects : ∃ kubeconfig, UsableKubeconfig ext kubeconfig ∧
    ext.newHarvesterClient kubeconfig = .ok ()
  settled : clusterFinalizer ∈ c.finalizers → PoolsGiven c.spec.vmNetworkConfig ∧
    Configurable ext c ∧ lbReady c.status.conditions = true

/-- A pass past the finalizer checks, before it has looked at the load balancer. -/
structure InStep (k : ObjectKey) (c s : HarvesterCluster) : Prop where
  running : ∃ v, Running k false v c s
  agrees : Agrees c s

section Leads

variable {τ : Type} {R : τ → (r : Req) → Resp r → τ → Prop} {u : τ} {ext : Externals}
  {k : ObjectKey} {sc : Scope} {c s : HarvesterCluster} {t : Option HarvesterCluster}

theorem leads_inStep {α : Type} {b : Pass α} (hb : Maintains k false c b) (ha : Aside c b)
    (h : InStep k c s) : Leads R u b s fun _ _ s' => InStep k c s' := by
  obtain ⟨v, hv⟩ := h.running
  intro u' out he
  obtain ⟨-, hagrees⟩ := (ha () s h.agrees).leads u u' out he
  exact ⟨(hb v s hv).leads u u' out he, hagrees⟩

theorem leads_connection :
    Leads R u (reconcileHarvesterConfig ext) s fun _ out _ =>
      ∀ kubeconfig, out = some (.ok kubeconfig) → UsableKubeconfig ext kubeconfig := by
  refine .modify_bind (.get_bind (.request_bind fun secret u₁ _ => ?_))
  cases secret with
  | error e => exact .modify_bind (.modify_bind (.pure nofun))
  | ok kubeconfig =>
    dsimp only
    split
    · exact .modify_bind (.modify_bind (.pure nofun))
    rename_i server hserver
    refine .modify_bind ?_
    split
    · exact .modify_bind (.pure nofun)
    split
    · exact .modify_bind (.pure nofun)
    rename_i hrest _ hkube
    refine .request_bind fun deployment u₂ _ => ?_
    cases deployment with
    | error e => exact .modify_bind (.pure nofun)
    | ok conditions =>
      dsimp only
      split_ifs
      · exact .modify_bind (.pure nofun)
      · refine .modify_bind (.pure ?_)
        rintro _ ⟨⟩
        exact ⟨⟨server, hserver⟩, hrest, hkube⟩

/-- The client refuses an empty name. -/
theorem Calls.named {name : String} {pool : IPPool} {t' : Option HarvesterCluster}
    (h : Calls k t (.getPool name) (.ok pool) t') : name ≠ "" := by
  obtain ⟨⟨w, a, -, hx, -⟩, -⟩ := h
  have hfound : w.getPool name = .ok pool := Fault.reply_eq_ok hx
  rintro rfl
  cases hfound

theorem leads_verifyPools (refs readyPools : List String) :
    Leads (Calls k) t (verifyPools refs readyPools) s fun _ out _ =>
      ∀ pools, out = some (.ok pools) → "" ∉ refs := by
  induction refs generalizing t readyPools with
  | nil => exact .pure fun _ _ => List.not_mem_nil
  | cons ref refs ih =>
    refine .request_bind fun got t₁ hgot => ?_
    cases got with
    | error e => exact .modify_bind (.pure nofun)
    | ok pool =>
      refine (ih _).mono fun _ _ _ hrest pools hout => ?_
      exact List.not_mem_cons_of_ne_of_not_mem hgot.named.symm (hrest pools hout)

theorem leads_poolsGiven :
    Leads (Calls k) t (reconcileVMIPPool sc) s fun _ out _ =>
      out = some (.ok ()) → PoolsGiven s.spec.vmNetworkConfig := by
  refine .get_bind ?_
  cases s.spec.vmNetworkConfig with
  | none => exact .pure fun _ _ h => nomatch h
  | some vmNetCfg =>
    dsimp only
    split_ifs with hany
    · refine (leads_verifyPools _ _).bind (fun t₁ verified s₁ hnamed => ?_) fun _ _ _ => nofun
      cases verified with
      | error e => exact .pure nofun
      | ok pools =>
        refine .modify_bind (.pure fun _ => ?_)
        rintro _ ⟨⟩
        rw [if_neg hany]
        exact hnamed pools rfl
    · cases hpool : vmNetCfg.ipPool with
      | none => exact .pure nofun
      | some p =>
        intro _ _ _ _
        rintro _ ⟨⟩
        rw [if_pos (not_not.mp hany), hpool]
        nofun

theorem leads_writable (cfg : UpdateCloudProviderConfig) :
    Leads R u (updateCloudProviderManifests ext sc cfg) s fun _ out _ =>
      out = some (.ok ()) → Writable ext cfg := by
  unfold updateCloudProviderManifests
  dsimp only
  split_ifs with hunset
  · exact .pure nofun
  obtain ⟨hname, hns⟩ := not_or.mp hunset
  refine .request_bind fun got u₁ _ => ?_
  cases got with
  | error e => exact .pure nofun
  | ok stored =>
    dsimp only
    split
    · exact .pure nofun
    rename_i manifest _
    refine .get_bind (.request_bind fun kubeconfig u₂ _ => ?_)
    cases kubeconfig with
    | error e => exact .pure nofun
    | ok b64 =>
      dsimp only
      split
      · exact .pure nofun
      rename_i bytes hbytes
      split
      · exact .pure nofun
      rename_i modified hmodified
      exact fun _ _ _ _ => ⟨hname, hns, manifest, b64, bytes, modified, hbytes, hmodified⟩

theorem leads_configurable :
    Leads R u (reconcileCloudProviderConfig ext sc) s fun _ out _ =>
      out = some (.ok ()) → Configurable ext s := by
  refine .get_bind ?_
  split_ifs with hdone hempty
  · exact .pure fun _ => Or.inl hdone
  · exact fun _ _ _ _ => Or.inr (Or.inl hempty)
  · refine (leads_writable _).bind (fun u₁ written s₁ hwritable => ?_) fun _ _ _ => nofun
    cases written with
    | error e => exact .pure nofun
    | ok _ => exact fun _ _ _ _ => Or.inr (Or.inr (hwritable rfl))

theorem Configurable.of_agrees (h : Configurable ext s) (hs : Agrees c s) : Configurable ext c := by
  unfold Configurable at h ⊢
  rwa [hs.config, Conditions.isTrue_lookup hs.cloud] at h

/-- Past the finalizer checks, only a pass that read the load balancer as ready has nothing to
do. -/
theorem leads_infrastructure (hd : c.deleting = false) (hf : clusterFinalizer ∈ c.finalizers)
    (h : InStep sc.key c s) :
    Leads (Calls k) t (reconcileInfrastructure ext sc) s fun _ out _ => out = some zero →
      PoolsGiven s.spec.vmNetworkConfig ∧ Configurable ext c ∧
        lbReady c.status.conditions = true := by
  have hcommon := running_indifferent sc.key false c
  have herror : ∀ {P : Prop} {res : Result} {e : String},
      (some (res, some e) : Option Outcome) = some zero → P := fun hz =>
    absurd hz (error_ne_zero _ _)
  have hpools : Leads (Calls k) t (reconcileVMIPPool sc) s fun _ out s' =>
      InStep sc.key c s' ∧ (out = some (.ok ()) → PoolsGiven s.spec.vmNetworkConfig) :=
    fun t' out he => ⟨leads_inStep (running_reconcileVMIPPool hd hf) aside_reconcileVMIPPool h
      t' out he, leads_poolsGiven t' out he⟩
  refine hpools.bind ?_ fun _ _ _ => nofun
  rintro t (e | u) s ⟨h, hgiven⟩
  · exact .pure herror
  have hgiven := hgiven rfl
  refine (leads_inStep (maintains_reconcileTargetNamespace hcommon) aside_reconcileTargetNamespace
    h).bind ?_ fun _ _ _ => nofun
  rintro t - s h
  refine (leads_inStep (maintains_reconcileFailureDomains hcommon) aside_reconcileFailureDomains
    h).bind ?_ fun _ _ _ => nofun
  rintro t - s h
  refine (leads_inStep (maintains_getOwnedCPHarversterMachines hcommon)
    aside_getOwnedCPHarversterMachines h).bind ?_ fun _ _ _ => nofun
  rintro t (e | (- | ⟨machine, rest⟩)) s h
  · exact .pure herror
  · exact leads_reconcilePlaceholder.mono fun _ _ _ hne hz => absurd hz hne
  have hconfig : Leads (Calls k) t (reconcileCloudProviderConfig ext sc) s fun _ out s' =>
      (∃ v, Running sc.key false v c s') ∧ (out = some (.ok ()) → Configurable ext s) := by
    obtain ⟨v, hv⟩ := h.running
    exact fun t' out he => ⟨(running_reconcileCloudProviderConfig _ v s hv).leads t t' out he,
      leads_configurable t' out he⟩
  refine hconfig.bind ?_ fun _ _ _ => nofun
  rintro t (e | u) s' ⟨⟨v, hv⟩, hcfg⟩
  · exact .pure herror
  have hset : Maintains sc.key false c (infrastructureNotReady
      "InfrastructureProvisioningInProgress" "Infrastructure provisioning in progress") :=
    .setCondition _ rfl
  have hframe := (hset v s' hv).early rfl
  refine .modify_bind (.get_bind ?_)
  split_ifs with hlb
  · exact leads_awaitLoadBalancer.mono fun _ _ _ hne hz => absurd hz hne
  all_goals
    have hready : lbReady c.status.conditions = true := by
      rw [← hframe.lbReady]
      simpa [lbReady] using hlb
    exact fun _ _ _ _ => ⟨hgiven, (hcfg rfl).of_agrees h.agrees, hready⟩

end Leads

section Body

variable {ext : Externals} {k : ObjectKey} {c s : HarvesterCluster} {t t' : Option HarvesterCluster}

theorem Calls.getOwnerCluster {x : Except ApiError (Option Owner)}
    (h : Calls k t .getOwnerCluster x t') : t' = t := by
  obtain ⟨⟨w, a, rfl, -, rfl⟩, -⟩ := h
  rfl

/-- The check for the pause either records the new condition and ends the pass, or finds on record
that the cluster is not paused. -/
theorem Calls.ensurePausedCondition {o : Owner} {x : PausedResult}
    (h : Calls k (some c) (.ensurePausedCondition o (c.status.conditions.lookup "Paused")) x t')
    (herr : x.err = none) :
    (x.requeue = true ∧ ∃ p, c.status.conditions.lookup "Paused" ≠ some p ∧
      x.condition = some p ∧ t' = some (c.markPaused p)) ∨
    x.requeue = false ∧ t' = some c ∧
      ∃ p ∈ c.status.conditions.lookup "Paused", p.status ≠ .true_ := by
  obtain ⟨⟨w, (a : PausedAnswer), hw, rfl, rfl⟩, hatt⟩ := h
  change (!PausedResult.isPaused (ensurePaused _ a w (w.patchPaused k)).1) = true at hatt
  change (ensurePaused _ a w (w.patchPaused k)).1.err = none at herr
  show ((ensurePaused _ a w (w.patchPaused k)).1.requeue = true ∧ ∃ p, _ ≠ some p ∧
      (ensurePaused _ a w (w.patchPaused k)).1.condition = some p ∧
      (ensurePaused _ a w (w.patchPaused k)).2.clusters.lookup k = _) ∨
    (ensurePaused _ a w (w.patchPaused k)).1.requeue = false ∧
      (ensurePaused _ a w (w.patchPaused k)).2.clusters.lookup k = _ ∧ _
  rw [ensurePaused_isPaused] at hatt
  cases hrequeue : (ensurePaused _ a w (w.patchPaused k)).1.requeue with
  | true =>
    obtain ⟨hne, hpatch, hcond⟩ := ensurePaused_of_requeue hrequeue
    obtain ⟨c', hc', hw'⟩ := patchPaused_eq_ok hpatch
    obtain rfl := Option.some.inj (hw.symm.trans hc')
    refine Or.inl ⟨rfl, a.condition, hne, hcond, ?_⟩
    rw [hw', lookup_setCluster, if_pos rfl]
  | false =>
    obtain ⟨hsame, hw'⟩ := ensurePaused_of_through herr hrequeue
    refine Or.inr ⟨rfl, by rw [hw', hw], a.condition, hsame, ?_⟩
    simpa using hatt

theorem vmNetworkConfig_indifferent : Indifferent (fun (_ : Unit) _ => True) (fun u _ _ => u)
    (fun _ s => s.spec.vmNetworkConfig = c.spec.vmNetworkConfig) where
  call _ := .request fun _ _ h => ⟨trivial, fun _ => h⟩
  report _ _ := .modify fun _ _ h => h
  server _ := .modify fun _ _ h => h
  failureDomains _ := .modify fun _ _ h => h

/-- With the connection the pass is in step, and the kubeconfig was usable. -/
theorem leads_connected {τ : Type} {R : τ → (r : Req) → Resp r → τ → Prop} {u : τ}
    (k : ObjectKey) (c : HarvesterCluster) :
    Leads R u (reconcileHarvesterConfig ext) c fun _ out s' =>
      ∀ kubeconfig, out = some (.ok kubeconfig) → InStep k c s' ∧
        s'.spec.vmNetworkConfig = c.spec.vmNetworkConfig ∧ UsableKubeconfig ext kubeconfig := by
  have h₀ : Running k false (View.fresh.next .getCluster (.ok c)) c c :=
    .first rfl rfl ⟨rfl, rfl⟩
  have hkept : Body.Maintains (fun (_ : Unit) _ => True) (fun u _ _ => u)
      (fun _ s => s.spec.vmNetworkConfig = c.spec.vmNetworkConfig) (reconcileHarvesterConfig ext) :=
    maintains_reconcileHarvesterConfig vmNetworkConfig_indifferent (.modify fun _ _ h => h)
  intro u' out he kubeconfig hout
  obtain ⟨v, -, hrun⟩ := (obeys_reconcileHarvesterConfig h₀).leads u u' out he
  obtain ⟨-, hagrees⟩ := (aside_reconcileHarvesterConfig () c (.refl c)).leads u u' out he
  obtain ⟨-, hvm⟩ := (hkept () c rfl).leads u u' out he
  exact ⟨⟨⟨v, hrun ⟨kubeconfig, hout⟩⟩, hagrees⟩, hvm, leads_connection u' out he kubeconfig hout⟩

/-- A pass that has nothing to do has recorded the pause, or the stored cluster lets it rest. -/
theorem leads_reconcileBody_zero (hd : c.deleting = false) :
    Leads (Calls k) (some c) (reconcileBody ext k) c fun t' out s' => out = some zero →
      (∃ p, c.status.conditions.lookup "Paused" ≠ some p ∧ t' = some (c.markPaused p) ∧
        s' = c.markPaused p) ∨ CanRest ext c := by
  refine .request_bind fun owner t₁ howner => ?_
  obtain rfl := howner.getOwnerCluster
  rcases owner with e | (- | owner)
  · exact .pure fun hz => absurd hz (error_ne_zero _ _)
  · exact nomatch howner.2
  refine .get_bind (.request_bind fun paused t₂ hpaused => ?_)
  split_ifs with hstop
  · -- The pass ends here, with an error or after the condition was written.
    unfold recordPaused
    cases hcond : paused.condition with
    | none =>
      refine .pure fun hz => ?_
      have herr : paused.err = none := (Prod.mk.inj (Option.some.inj hz)).2
      have hlive : paused.isPaused = false := by simpa [attended] using hpaused.2
      rcases hpaused.ensurePausedCondition herr with ⟨-, p, -, hp, -⟩ | ⟨hno, -⟩
      · exact nomatch hcond.symm.trans hp
      · simp [herr, hlive, hno] at hstop
    | some p =>
      refine .modify_bind (.pure fun hz => ?_)
      have herr : paused.err = none := (Prod.mk.inj (Option.some.inj hz)).2
      have hlive : paused.isPaused = false := by simpa [attended] using hpaused.2
      rcases hpaused.ensurePausedCondition herr with ⟨-, p', hne, hp, ht⟩ | ⟨hno, -⟩
      · obtain rfl := Option.some.inj (hcond.symm.trans hp)
        exact Or.inl ⟨p, hne, ht, rfl⟩
      · simp [herr, hlive, hno] at hstop
  simp only [not_or, Bool.not_eq_true, ne_eq, not_not] at hstop
  obtain ⟨herr, -, hgo⟩ := hstop
  rcases hpaused.ensurePausedCondition herr with ⟨hrequeue, -⟩ | ⟨-, -, hunpaused⟩
  · exact nomatch hgo.symm.trans hrequeue
  refine (leads_connected k c).bind ?_ fun _ _ _ => nofun
  rintro t₃ (e | kubeconfig) s₃ h₃
  · exact .pure fun hz => absurd hz (error_ne_zero _ _)
  obtain ⟨h₃, hvm, husable⟩ := h₃ kubeconfig rfl
  dsimp only
  split
  · exact .pure fun hz => absurd hz (error_ne_zero _ _)
  rename_i hclient
  obtain ⟨v₃, hrun⟩ := h₃.running
  refine .get_bind ?_
  rw [hrun.deleting, hd, if_neg Bool.false_ne_true]
  unfold reconcileNormal
  refine .get_bind ?_
  have hconnects : ∃ kubeconfig, UsableKubeconfig ext kubeconfig ∧
      ext.newHarvesterClient kubeconfig = .ok () := ⟨kubeconfig, husable, hclient⟩
  rw [hrun.finalizers]
  split_ifs with hlegacy hfin
  · exact fun _ _ _ _ => Or.inr ⟨hunpaused, hconnects, fun hf => absurd hf hlegacy.2⟩
  · refine (@leads_infrastructure ext k ⟨k, owner⟩ c s₃ t₃ hd hfin h₃).mono
      fun _ _ _ hlb hz => Or.inr ⟨hunpaused, hconnects, fun _ => ?_⟩
    rw [← hvm]
    exact hlb hz
  · exact fun _ _ _ _ => Or.inr ⟨hunpaused, hconnects, fun hf => absurd hf hfin⟩

end Body

/-- Some responses that leave the stored cluster as it is let the code return as in `Q`. -/
def Rests {α : Type} (k : ObjectKey) (c : HarvesterCluster) (b : Pass α) (s : HarvesterCluster)
    (Q : α → HarvesterCluster → Prop) : Prop :=
  May (Calls k) (some c) b s fun t' out s' => t' = some c ∧ ∃ a, out = some a ∧ Q a s'

section Rests

variable {α β : Type} {ext : Externals} {k : ObjectKey} {sc : Scope} {c s : HarvesterCluster}

theorem Rests.pure {a : α} {Q : α → HarvesterCluster → Prop} (h : Q a s) :
    Rests k c (Pure.pure a) s Q := May.pure ⟨rfl, a, rfl, h⟩

theorem Rests.modify {g : HarvesterCluster → HarvesterCluster}
    {Q : Unit → HarvesterCluster → Prop} (h : Q () (g s)) : Rests k c (Body.modify g) s Q :=
  May.modify ⟨rfl, (), rfl, h⟩

theorem Rests.bind {b : Pass α} {f : α → Pass β} {P : α → HarvesterCluster → Prop}
    {Q : β → HarvesterCluster → Prop} (h : Rests k c b s P)
    (hf : ∀ a s', P a s' → Rests k c (f a) s' Q) : Rests k c (b >>= f) s Q := by
  obtain ⟨t', out, he, ht, a, ha, hp⟩ := h
  refine May.bind ⟨t', out, he, a, ha, ?_⟩
  rw [ht]
  exact hf a _ hp

theorem Rests.request_bind {r : Req} {f : Resp r → Pass β} {Q : β → HarvesterCluster → Prop}
    (x : Resp r) (hx : Calls k (some c) r x (some c)) (hf : Rests k c (f x) s Q) :
    Rests k c (call r >>= f) s Q := May.request_bind x hx hf

theorem Rests.get_bind {f : HarvesterCluster → Pass β} {Q : β → HarvesterCluster → Prop}
    (hf : Rests k c (f s) s Q) : Rests k c (Body.get >>= f) s Q := hf

theorem Rests.modify_bind {g : HarvesterCluster → HarvesterCluster} {f : Unit → Pass β}
    {Q : β → HarvesterCluster → Prop} (hf : Rests k c (f ()) (g s) Q) :
    Rests k c (Body.modify g >>= f) s Q := hf

theorem Rests.inStep {b : Pass α} {Q : α → HarvesterCluster → Prop} (h : Rests k c b s Q)
    {j : ObjectKey} (hb : Maintains j false c b) (ha : Aside c b) (hs : InStep j c s) :
    Rests k c b s fun a s' => Q a s' ∧ InStep j c s' :=
  May.leads h (leads_inStep hb ha hs) fun _ _ _ ⟨ht, a, ha, hq⟩ hin => ⟨ht, a, ha, hq, hin⟩

/-- A call that some world answers without a write. -/
theorem calls_of_exec {r : Req} {x : Resp r} {w : World} (a : Answer r)
    (hw : w.clusters.lookup k = some c) (hx : exec k r a w = (x, w)) (hatt : attended r x = true) :
    Calls k (some c) r x (some c) :=
  ⟨⟨w, a, hw, by rw [hx], by rw [hx, hw]⟩, hatt⟩

theorem calls_solo {r : Req} {x : Resp r} (a : Answer r)
    (hx : exec k r a (soloWorld k c) = (x, soloWorld k c)) (hatt : attended r x = true) :
    Calls k (some c) r x (some c) :=
  calls_of_exec a (lookup_soloWorld k c) hx hatt

theorem rests_reconcileHarvesterConfig {kubeconfig : String} (h : UsableKubeconfig ext kubeconfig) :
    Rests k c (reconcileHarvesterConfig ext) s fun out _ => out = .ok kubeconfig := by
  obtain ⟨⟨server, hserver⟩, hrest, hkube⟩ := h
  refine .modify_bind (.get_bind (.request_bind (.ok kubeconfig) (calls_solo (.ok kubeconfig) rfl
    rfl) ?_))
  dsimp only
  rw [hserver]
  refine .modify_bind ?_
  rw [hrest]
  dsimp only
  rw [hkube]
  refine .request_bind (.ok [("Available", true)]) (calls_solo (.ok [("Available", true)]) rfl
    rfl) ?_
  exact .modify_bind (.pure rfl)

/-- A pool can be found under any name that the client takes. -/
theorem calls_getPool {name : String} (h : name ≠ "") (pool : IPPool) :
    Calls k (some c) (.getPool name) (.ok pool) (some c) := by
  let w : World := { soloWorld k c with
    pools := (∅ : Table String StoredPool).insert name ⟨pool, none⟩ }
  have hfound : w.getPool name = .ok pool := by
    unfold World.getPool
    rw [if_neg h, AList.lookup_insert]
    rfl
  exact calls_of_exec (w := w) .none (lookup_soloWorld k c) (Prod.ext hfound rfl) rfl

theorem rests_verifyPools {refs : List String} (h : "" ∉ refs) (readyPools : List String) :
    Rests k c (verifyPools refs readyPools) s fun out _ => ∃ pools, out = .ok pools := by
  induction refs generalizing readyPools with
  | nil => exact .pure ⟨_, rfl⟩
  | cons ref refs ih =>
    obtain ⟨hne, hrefs⟩ := not_or.mp (mt List.mem_cons.mpr h)
    let pool : IPPool := ⟨0, "", [], ⟨0, "", none, none⟩⟩
    exact .request_bind (.ok pool) (calls_getPool (Ne.symm hne) pool) (ih hrefs _)

theorem rests_reconcileVMIPPool (h : PoolsGiven s.spec.vmNetworkConfig) :
    Rests k c (reconcileVMIPPool sc) s fun out _ => out = .ok () := by
  refine .get_bind ?_
  cases hcfg : s.spec.vmNetworkConfig with
  | none => exact .pure rfl
  | some vmNetCfg =>
    have hgiven := h vmNetCfg hcfg
    dsimp only
    split_ifs with hany
    · rw [if_neg hany] at hgiven
      refine (rests_verifyPools hgiven []).bind ?_
      rintro - s' ⟨pools, rfl⟩
      exact .modify_bind (.pure rfl)
    · rw [if_pos (not_not.mp hany)] at hgiven
      cases hpool : vmNetCfg.ipPool with
      | none => exact absurd hpool hgiven
      | some p =>
        let pool : IPPool := (vmPoolToCreate sc.key p).new
        exact .request_bind (.ok pool) (calls_getPool (vmPoolName_ne_empty sc.key) pool)
          (.modify_bind (.modify_bind (.pure rfl)))

theorem rests_reconcileTargetNamespace :
    Rests k c reconcileTargetNamespace s fun _ _ => True :=
  .modify_bind (.get_bind (.request_bind (.ok ()) (calls_solo (.ok ()) rfl rfl) (.modify trivial)))

theorem rests_reconcileFailureDomains :
    Rests k c reconcileFailureDomains s fun _ _ => True :=
  .request_bind (.error .notFound) (calls_solo (.error .notFound) rfl rfl) (.pure trivial)

/-- One machine of the control plane has its VM. -/
theorem rests_getOwnedCPHarversterMachines :
    Rests k c (getOwnedCPHarversterMachines sc) s fun out _ => ∃ m rest, out = .ok (m :: rest) := by
  have hlisted : Calls k (some c) (.listMachines sc.cluster.key.name) (.ok [k]) (some c) :=
    calls_of_exec (w := { soloWorld k c with
      machines := (∅ : Table ObjectKey MachineLabels).insert k ⟨some sc.cluster.key.name, true⟩ })
      .none (lookup_soloWorld k c) (by simp [exec, respond, World.note, World.listMachines,
        Fault.reply]) rfl
  refine .request_bind (.ok [k]) hlisted (.get_bind ?_)
  exact .bind (P := fun owned _ => owned = [k])
    (.request_bind (.ok ()) (calls_solo (.ok ()) rfl rfl) (.pure rfl))
    fun owned _ howned => .pure ⟨k, [], howned ▸ rfl⟩

section ConfigMaps

variable (k) (c) (n : NamespacedName) (stored : Versioned (Table String String))

def configMapWorld : World := { soloWorld k c with
  configMaps := (∅ : Table NamespacedName (Versioned (Table String String))).insert n stored }

theorem calls_getConfigMap : Calls k (some c) (.getConfigMap n) (.ok stored) (some c) := by
  have hfound : (configMapWorld k c n stored).configMaps.lookup n = some stored :=
    AList.lookup_insert _
  exact calls_of_exec (w := configMapWorld k c n stored) .none (lookup_soloWorld k c)
    (Prod.ext (congrArg found hfound) rfl) rfl

theorem calls_updateConfigMap (data : Table String String) :
    Calls k (some c) (.updateConfigMap n { stored with val := data }) (.ok ()) (some c) := by
  have hupdated : updateVersioned (configMapWorld k c n stored).configMaps n
      { stored with val := data } = .ok ((configMapWorld k c n stored).configMaps.insert n
        ⟨stored.resourceVersion + 1, data⟩) := by
    have hfound : (configMapWorld k c n stored).configMaps.lookup n = some stored :=
      AList.lookup_insert _
    unfold updateVersioned
    rw [hfound]
    exact if_pos rfl
  refine ⟨⟨configMapWorld k c n stored, .none, lookup_soloWorld k c, ?_, ?_⟩, rfl⟩
  all_goals
    simp only [exec, respond, World.note, hupdated]
    first | rfl | exact lookup_soloWorld k c

end ConfigMaps

theorem rests_updateCloudProviderManifests {cfg : UpdateCloudProviderConfig}
    (h : Writable ext cfg) :
    Rests k c (updateCloudProviderManifests ext sc cfg) s fun out _ => out = .ok () := by
  obtain ⟨hname, hns, manifest, b64, bytes, modified, hbytes, hmodified⟩ := h
  let stored : Versioned (Table String String) :=
    ⟨0, (∅ : Table String String).insert cfg.manifestsConfigMapKey manifest⟩
  unfold updateCloudProviderManifests
  dsimp only
  rw [if_neg (not_or.mpr ⟨hname, hns⟩)]
  refine .request_bind (.ok stored) (calls_getConfigMap k c _ stored) ?_
  dsimp only
  rw [show stored.val.lookup _ = some manifest from AList.lookup_insert _]
  refine .get_bind (.request_bind (.ok b64) (calls_solo (.ok b64) rfl rfl) ?_)
  dsimp only
  rw [hbytes]
  dsimp only
  rw [hmodified]
  exact .request_bind (.ok ()) (calls_updateConfigMap k c _ stored _) (.pure rfl)

theorem rests_reconcileCloudProviderConfig (h : Configurable ext s) :
    Rests k c (reconcileCloudProviderConfig ext sc) s fun out _ => out = .ok () := by
  refine .get_bind ?_
  split_ifs with hdone hempty
  · exact .pure rfl
  · exact .modify_bind (.pure rfl)
  · have hwritable := (h.resolve_left hdone).resolve_left hempty
    refine (rests_updateCloudProviderManifests hwritable).bind ?_
    rintro - s' rfl
    exact .modify_bind (.pure rfl)

theorem rests_reconcileFleetIntegration :
    Rests k c (reconcileFleetIntegration sc) s fun _ _ => True := by
  refine .get_bind ?_
  split_ifs
  · exact .pure trivial
  · exact .modify trivial
  · exact .request_bind (.error .notFound) (calls_solo (.error .notFound) rfl rfl) (.pure trivial)

end Rests

section Pass

variable {ext : Externals} {k : ObjectKey} {sc : Scope} {c s : HarvesterCluster}
  {t t' : Option HarvesterCluster}

theorem Configurable.agrees (h : Configurable ext c) (hs : Agrees c s) : Configurable ext s := by
  unfold Configurable at h ⊢
  rwa [hs.config, Conditions.isTrue_lookup hs.cloud]

theorem rests_reconcileInfrastructure (hd : c.deleting = false)
    (hf : clusterFinalizer ∈ c.finalizers) (h : InStep sc.key c s)
    (hgiven : PoolsGiven s.spec.vmNetworkConfig) (hcfg : Configurable ext c)
    (hlb : lbReady c.status.conditions = true) :
    Rests k c (reconcileInfrastructure ext sc) s fun out _ => out = zero := by
  have hcommon := running_indifferent sc.key false c
  refine ((rests_reconcileVMIPPool hgiven).inStep (running_reconcileVMIPPool hd hf)
    aside_reconcileVMIPPool h).bind ?_
  rintro - s ⟨rfl, h⟩
  refine (rests_reconcileTargetNamespace.inStep (maintains_reconcileTargetNamespace hcommon)
    aside_reconcileTargetNamespace h).bind ?_
  rintro - s ⟨-, h⟩
  refine (rests_reconcileFailureDomains.inStep (maintains_reconcileFailureDomains hcommon)
    aside_reconcileFailureDomains h).bind ?_
  rintro - s ⟨-, h⟩
  refine (rests_getOwnedCPHarversterMachines.inStep (maintains_getOwnedCPHarversterMachines hcommon)
    aside_getOwnedCPHarversterMachines h).bind ?_
  rintro - s ⟨⟨m, rest, rfl⟩, h⟩
  obtain ⟨v, hv⟩ := h.running
  have hconfig : Rests k c (reconcileCloudProviderConfig ext sc) s fun out s' =>
      out = .ok () ∧ ∃ v, Running sc.key false v c s' :=
    May.leads (rests_reconcileCloudProviderConfig (hcfg.agrees h.agrees))
      ((running_reconcileCloudProviderConfig _ v s hv).leads _)
      fun _ _ _ ⟨ht, a, ha, hok⟩ hrun => ⟨ht, a, ha, hok, hrun⟩
  refine hconfig.bind ?_
  rintro - s' ⟨rfl, v', hv'⟩
  have hset : Maintains sc.key false c (infrastructureNotReady
      "InfrastructureProvisioningInProgress" "Infrastructure provisioning in progress") :=
    .setCondition _ rfl
  have hframe := (hset v' s' hv').early rfl
  refine .modify_bind (.get_bind ?_)
  rw [if_neg (by simpa [lbReady] using hframe.lbReady.trans hlb)]
  refine .modify_bind ?_
  split_ifs
  · exact rests_reconcileFleetIntegration.bind fun _ _ _ => .pure rfl
  · exact .pure rfl

theorem rests_reconcileBody (hd : c.deleting = false) (h : CanRest ext c) :
    Rests k c (reconcileBody ext k) c fun out _ => out = zero := by
  obtain ⟨p, hp, hlive⟩ := h.unpaused
  obtain ⟨kubeconfig, husable, hclient⟩ := h.connects
  let owner : Owner := ⟨k, ∅⟩
  let a : PausedAnswer := ⟨p, .none⟩
  have hthrough : a.LetsThrough (c.status.conditions.lookup "Paused") := ⟨hp, hlive⟩
  refine .request_bind (.ok (some owner)) (calls_solo (.ok (some owner)) rfl rfl) (.get_bind ?_)
  refine .request_bind ⟨false, false, none, none⟩
    (calls_solo a (ensurePaused_of_letsThrough hthrough) rfl) ?_
  rw [if_neg (by simp)]
  have hconfig : Rests k c (reconcileHarvesterConfig ext) c fun out s' =>
      out = .ok kubeconfig ∧ InStep k c s' ∧ s'.spec.vmNetworkConfig = c.spec.vmNetworkConfig := by
    refine May.leads (rests_reconcileHarvesterConfig husable) (leads_connected k c) ?_
    rintro _ _ s' ⟨ht, _, rfl, rfl⟩ hconnected
    obtain ⟨hstep, hvm, -⟩ := hconnected kubeconfig rfl
    exact ⟨ht, _, rfl, rfl, hstep, hvm⟩
  refine hconfig.bind ?_
  rintro - s ⟨rfl, hstep, hvm⟩
  dsimp only
  rw [hclient]
  obtain ⟨v, hrun⟩ := hstep.running
  refine .get_bind ?_
  rw [hrun.deleting, hd, if_neg Bool.false_ne_true]
  unfold reconcileNormal
  refine .get_bind ?_
  rw [hrun.finalizers]
  split_ifs with hlegacy hfin
  · exact .modify_bind (.pure rfl)
  · obtain ⟨hgiven, hcfg, hlb⟩ := h.settled hfin
    exact rests_reconcileInfrastructure hd hfin hstep (hvm ▸ hgiven) hcfg hlb
  · exact .modify_bind (.pure rfl)

/-- A pass whose patches are all rejected changes nothing. -/
theorem executes_patchHelper_rejected (before after : HarvesterCluster) :
    ∃ e, Executes (Calls k) (some c) (patchHelper before after) (some c) e := by
  have hconditions : ∃ e, Executes (Calls k) (some c) (sendConditions before after) (some c) e := by
    unfold sendConditions
    split_ifs
    · exact ⟨none, .ret⟩
    · exact ⟨_, .call (.error (.other "")) (calls_solo (.reject "") rfl rfl) .ret⟩
  have hobject : ∃ e, Executes (Calls k) (some c) (sendObject before after) (some c) e := by
    unfold sendObject
    split_ifs
    · exact ⟨none, .ret⟩
    · exact ⟨_, .call (.error (.other "")) (calls_solo (.reject "") rfl rfl) .ret⟩
  have hstatus : ∃ e, Executes (Calls k) (some c) (sendStatus before after) (some c) e := by
    unfold sendStatus
    split_ifs
    · exact ⟨none, .ret⟩
    · exact ⟨_, .call (.error (.other "")) (calls_solo (.reject "") rfl rfl) .ret⟩
  obtain ⟨e₁, h₁⟩ := hconditions
  obtain ⟨e₂, h₂⟩ := hobject
  obtain ⟨e₃, h₃⟩ := hstatus
  exact ⟨_, Prog.executes_bind.mpr ⟨_, e₁, h₁, Prog.executes_bind.mpr ⟨_, e₂, h₂,
    Prog.executes_bind.mpr ⟨_, e₃, h₃, .ret⟩⟩⟩⟩

/-- Where the pass can rest, it can do so without a change of the stored cluster. -/
theorem CanRest.executes (h : CanRest ext c) (hd : c.deleting = false) :
    Executes (Calls k) (some c) (reconcile ext k) (some c) zero := by
  obtain ⟨t, ⟨_, s⟩, hbody, rfl, _, rfl, rfl⟩ := rests_reconcileBody (k := k) hd h
  obtain ⟨e, hpatch⟩ := executes_patchHelper_rejected (k := k) (c := c) c (mirrorReady s)
  have hget : Calls k (some c) .getCluster (.ok c) (some c) := by
    refine calls_solo .none (Prod.ext ?_ rfl) rfl
    exact congrArg found (lookup_soloWorld k c)
  have hread : Executes (Calls k) (some c) (reconcileRead ext k c) (some c) zero :=
    Prog.executes_bind.mpr ⟨_, (some zero, s), hbody, Prog.executes_bind.mpr ⟨_, e, hpatch, .ret⟩⟩
  exact .call (.ok c) hget hread

/-- The patches of a pass keep a Paused condition that they find and have in memory. -/
theorem Answers.paused {r : Req} {x : Resp r} {p : Condition} (h : Answers k t r x t')
    (hr : PatchTo s r) (hs : s.status.conditions.lookup "Paused" = some p)
    (ht : ∀ c ∈ t, c.status.conditions.lookup "Paused" = some p) :
    ∀ c ∈ t', c.status.conditions.lookup "Paused" = some p := by
  obtain ⟨w, a, rfl, -, rfl⟩ := h
  have hset : ∀ {c : HarvesterCluster}, c.status.conditions.lookup "Paused" = some p →
      ∀ c' ∈ (w.setCluster k c).clusters.lookup k,
        c'.status.conditions.lookup "Paused" = some p := by
    intro c hc c' hc'
    obtain rfl := Option.some.inj ((AList.lookup_insert _).symm.trans hc')
    exact hc
  refine hr.exec_rule a (E := fun w' : World => ∀ c ∈ w'.clusters.lookup k,
      c.status.conditions.lookup "Paused" = some p) ht (fun before c cs hc hcs => hset ?_)
    (fun c _ hc => hset (ht c hc)) (fun c hc => by simp at hc) fun c _ hc => hset (ht c hc)
  rw [Conditions.lookup_merge hcs]
  split_ifs
  · exact ht c hc
  · exact hs

/-- A pass that returns nothing to do has read the cluster, and its body has returned that. -/
theorem executes_zero (he : Executes (Calls k) (some c) (reconcile ext k) t' zero) :
    ∃ t s, Executes (Calls k) (some c) (reconcileBody ext k c) t (some zero, s) ∧
      ∃ e, Executes (Calls k) t (patchHelper c (mirrorReady s)) t' e := by
  obtain ⟨got, t₀, hget, he⟩ := Prog.executes_request_bind he
  obtain ⟨rfl, hok, herr⟩ := Answers.getCluster hget.1
  cases got with
  | error e =>
    dsimp only at he
    split_ifs at he with hnf
    · exact nomatch herr e rfl hnf
    · cases he
  | ok c' =>
    obtain rfl := Option.some.inj (hok c' rfl)
    obtain ⟨t, ⟨out, s⟩, hbody, he⟩ := Prog.executes_bind.mp he
    obtain ⟨t₁, e, hpatch, he⟩ := Prog.executes_bind.mp he
    cases out with
    | none => cases he
    | some out =>
      obtain ⟨rfl, rfl⟩ := Prog.executes_pure he
      exact ⟨t, s, hbody, e, hpatch⟩

/-- A pass that returns nothing to do and leaves the stored cluster as it was could rest. -/
theorem canRest_of_executes (hd : c.deleting = false)
    (he : Executes (Calls k) (some c) (reconcile ext k) (some c) zero) : CanRest ext c := by
  obtain ⟨t, s, hbody, e, hpatch⟩ := executes_zero he
  refine (leads_reconcileBody_zero hd t _ hbody rfl).resolve_left ?_
  rintro ⟨p, hne, rfl, rfl⟩
  have hmarked : (c.markPaused p).status.conditions.lookup "Paused" = some p := by
    rw [HarvesterCluster.markPaused, Conditions.lookup_set, if_pos rfl]
  obtain ⟨-, -, hkept⟩ := Prog.Conforms.executes
    (I := fun (_ : Unit) (t : Option HarvesterCluster) =>
      ∀ c ∈ t, c.status.conditions.lookup "Paused" = some p)
    (patches_patchHelper c (mirrorReady (c.markPaused p)))
    (fun _ _ _ _ _ hr hx ht => hx.1.paused hr hmarked ht) hpatch
    fun c' hc' => Option.some.inj hc' ▸ hmarked
  exact hne (hkept c rfl)

end Pass

/-- Before its deferred patch, a pass changes at most the Paused condition of the stored
cluster. -/
theorem stored_of_executes_body {ext : Externals} {k : ObjectKey} {c : HarvesterCluster}
    {t' : Option HarvesterCluster} {out : Option Outcome × HarvesterCluster}
    (he : Executes (Calls k) (some c) (reconcileBody ext k c) t' out) :
    ∃ c', t' = some c' ∧ SameButPaused c c' := by
  have hc : (View.fresh.next .getCluster (.ok c)).cluster = some c := rfl
  have hbody : Obeys k _ (reconcileBody ext k) c fun v' _ s' => Ended k v' c s' :=
    obeys_reconcileBody hc ⟨rfl, rfl, rfl⟩
  have hkeep : ∀ (v : View) (t : Option HarvesterCluster) r x t', Guard k v r → Calls k t r x t' →
      (v.patching = false → ∃ c', t = some c' ∧ SameButPaused c c') →
      (v.next r x).patching = false → ∃ c', t' = some c' ∧ SameButPaused c c' := by
    intro v t r x t' hg hcall hi hp
    obtain ⟨c₁, rfl, hsame⟩ := hi (patching_of_next hp)
    obtain ⟨c₂, rfl, hsame'⟩ := hcall.1.unpatched hg hp
    exact ⟨c₂, rfl, hsame.trans hsame'⟩
  obtain ⟨v', hended, hstored⟩ := hbody.executes hkeep he fun _ => ⟨c, rfl, .refl c⟩
  exact hstored hended.unsent.2

def fleetReadyNow (cs : Conditions) : Bool := cs.isTrue "FleetIntegrationReady"

def Complete (c : HarvesterCluster) : Prop :=
  clusterFinalizer ∈ c.finalizers ∧ c.status.ready = true ∧
    lbReady c.status.conditions = true ∧ fleetReadyNow c.status.conditions = true

instance (c : HarvesterCluster) : Decidable (Complete c) := inferInstanceAs (Decidable (_ ∧ _))

/-- A pass that finds the cluster in this state and returns a zero result and no error has changed
the stored cluster, or the cluster is completely reconciled. -/
def NoStall (ext : Externals) (k : ObjectKey) (c : HarvesterCluster) : Prop :=
  ∀ t, Executes (Calls k) (some c) (reconcile ext k) t zero →
    t ≠ some c ∨ ∃ c' ∈ t, Complete c'

/-- The finalizer is stored, and a load balancer that was found ready has made the cluster ready
and Fleet has been told. -/
def Progressed (c : HarvesterCluster) : Prop :=
  clusterFinalizer ∈ c.finalizers ∧ (lbReady c.status.conditions = true →
    c.status.ready = true ∧ fleetReadyNow c.status.conditions = true)

instance (c : HarvesterCluster) : Decidable (Progressed c) :=
  inferInstanceAs (Decidable (_ ∧ (_ → _)))

/-- A live cluster never stalls exactly when its finalizer is stored and, once its load balancer
was found ready, it is ready and integrated with Fleet; or when what is stored lets no pass come
to its end with nothing to do. -/
theorem noStall_iff (ext : Externals) (k : ObjectKey) (c : HarvesterCluster)
    (hd : c.deleting = false) : NoStall ext k c ↔ Progressed c ∨ ¬ CanRest ext c := by
  constructor
  · intro h
    by_cases hrest : CanRest ext c
    · left
      rcases h _ (hrest.executes hd) with hne | ⟨c', hc', hfin, hready, hlb, hfleet⟩
      · exact absurd rfl hne
      · obtain rfl := Option.some.inj hc'
        exact ⟨hfin, fun _ => ⟨hready, hfleet⟩⟩
    · exact Or.inr hrest
  · intro h t he
    by_cases hstored : t = some c
    · subst hstored
      have hrest := canRest_of_executes hd he
      obtain ⟨hfin, hlb⟩ := h.resolve_right (not_not.mpr hrest)
      obtain ⟨-, -, hready⟩ := hrest.settled hfin
      exact Or.inr ⟨c, rfl, hfin, (hlb hready).1, hready, (hlb hready).2⟩
    · exact Or.inl hstored

namespace Sample

def storedX (u : ClusterState) : HarvesterCluster := (u.world.clusters.lookup keyX).getD default

def around (u : ClusterState) (stored : Option HarvesterCluster) : World :=
  { u.world with
    clusters := stored.elim ∅ fun c => (∅ : Table ObjectKey HarvesterCluster).insert keyX c }

theorem lookup_around (u : ClusterState) (stored : Option HarvesterCluster) :
    (around u stored).clusters.lookup keyX = stored := by
  cases stored with
  | none => rfl
  | some c => exact AList.lookup_insert _

def server (u : ClusterState) (t : Option HarvesterCluster) (r : Req) :
    Resp r × Option HarvesterCluster :=
  let out := exec keyX r (answers noFault r) (around u t)
  (out.1, out.2.clusters.lookup keyX)

def attends (u : ClusterState) (t : Option HarvesterCluster) (r : Req) : Bool :=
  attended r (server u t r).1

theorem calls_server (u : ClusterState) (t : Option HarvesterCluster) (r : Req)
    (h : attends u t r = true) : Calls keyX t r (server u t r).1 (server u t r).2 :=
  ⟨⟨around u t, answers noFault r, lookup_around u t, rfl, rfl⟩, h⟩

def passX (u : ClusterState) : Outcome × Option HarvesterCluster :=
  Prog.serve (server u) (some (storedX u)) (reconcile ext keyX)

def answersWithoutSecret : (r : Req) → Answer r
  | .getIdentitySecret _ => (.error (.other "timeout") : Except ApiError String)
  | r => answers noFault r

def provision : List ClusterAction :=
  created keyX [clusterFinalizer] spec ++ .env (.putMachine keyX ⟨some "x", true⟩) ::
    pass keyX ++ .env (.setAddress ⟨"target", "ns-x-lb"⟩ "10.0.0.9") :: pass keyX

def complete : ClusterState := (system ext).run empty (provision ++ pass keyX)

def interrupted : ClusterState := (system ext).run empty (provision ++
  .start keyX :: List.replicate 20 (.exec keyX answersWithoutSecret) ++ pass keyX)

end Sample

open Sample in
theorem noStall_sample : CanRest ext (storedX complete) ∧ NoStall ext keyX (storedX complete) := by
  obtain ⟨⟨p, hp, hlive⟩, hvm, hcfg, hlb, hd, hprogressed⟩ :
      (∃ p ∈ (storedX complete).status.conditions.lookup "Paused", p.status ≠ .true_) ∧
      (storedX complete).spec.vmNetworkConfig = none ∧
      (storedX complete).status.conditions.isTrue "CloudProviderConfigReady" = true ∧
      lbReady (storedX complete).status.conditions = true ∧
      (storedX complete).deleting = false ∧ Progressed (storedX complete) := by decide +kernel
  have husable : UsableKubeconfig ext "kubeconfig" :=
    ⟨⟨"https://harvester", by decide +kernel⟩, rfl, rfl⟩
  refine ⟨⟨⟨p, hp, hlive⟩, ⟨"kubeconfig", husable, rfl⟩, fun _ => ⟨?_, Or.inl hcfg, hlb⟩⟩,
    (noStall_iff ext keyX (storedX complete) hd).mpr (Or.inl hprogressed)⟩
  rw [hvm]
  nofun

open Sample in
/-- A cluster that lost its readiness is left alone: the pass changes nothing, returns nothing to
do, and the cluster is not ready. -/
theorem stalled_unready :
    interrupted.world.clusters.lookup keyX = some (storedX interrupted) ∧
    Executes (Calls keyX) (some (storedX interrupted)) (reconcile ext keyX)
      (some (storedX interrupted)) zero ∧ ¬ Complete (storedX interrupted) := by
  obtain ⟨hcomplies, hpass, hstored, hincomplete⟩ :
      Prog.Complies (server interrupted) (fun t r => attends interrupted t r)
        (some (storedX interrupted)) (reconcile ext keyX) ∧
      passX interrupted = (zero, some (storedX interrupted)) ∧
      interrupted.world.clusters.lookup keyX = some (storedX interrupted) ∧
      ¬ Complete (storedX interrupted) := by decide +kernel
  have hrun : Executes (Calls keyX) _ (reconcile ext keyX) (passX interrupted).2
      (passX interrupted).1 := Prog.Complies.executes (calls_server interrupted) hcomplies
  rw [hpass] at hrun
  exact ⟨hstored, hrun, hincomplete⟩

end Caphv.Cluster
