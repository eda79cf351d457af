import Caphv.OneShotConditions

namespace Caphv.Cluster

open Prog (Executes)

/-- The pool of the VMs is on record, and the configuration with its name is gone. -/
def Dangling (c : HarvesterCluster) : Prop :=
  vmPoolOwned c.status.conditions = true ∧ c.spec.vmNetworkConfig = none

instance (c : HarvesterCluster) : Decidable (Dangling c) := inferInstanceAs (Decidable (_ ∧ _))

abbrev Returns {α : Type} (b : Pass α) (s : HarvesterCluster) : Prop :=
  Body.Always b s fun out _ => out ≠ none

section Returns

variable {s : HarvesterCluster} {sc : Scope}

theorem returns_unlessFailed {rest : Pass Outcome} :
    (∀ x, Returns (unlessFailed x rest) s) ↔ Returns rest s := by
  constructor
  · exact fun h => h (.ok ())
  · intro h x
    unfold unlessFailed
    cases x with
    | ok u => exact h
    | error e =>
      dsimp only
      split_ifs
      · exact h
      · exact nofun

theorem returns_deleteVMIPPool_iff : Returns deleteVMIPPool s ↔ ¬ Dangling s := by
  have hfinish : ∀ s, Returns (do
      Body.modify fun c => { c with finalizers := dropFinalizers c.finalizers }
      pure ((.empty, none) : Outcome)) s := fun _ => nofun
  constructor
  · rintro h ⟨howned, hconfig⟩
    rw [vmPoolOwned] at howned
    unfold deleteVMIPPool at h
    replace h := h.of_get_bind
    dsimp only at h
    rw [if_pos howned, hconfig] at h
    exact h rfl
  · intro h
    refine .get_bind ?_
    dsimp only
    split_ifs with howned
    · cases hconfig : s.spec.vmNetworkConfig with
      | none => exact absurd ⟨howned, hconfig⟩ h
      | some vmNetCfg =>
        exact Body.always_request_bind.mpr (returns_unlessFailed.mpr (hfinish _))
    · exact hfinish _

theorem returns_deleteGenerated_iff : Returns (deleteGenerated sc) s ↔ ¬ Dangling s :=
  calc Returns (deleteGenerated sc) s
    _ ↔ ∀ service, Returns (unlessFailed service do
          let pool ← call (.deletePool sc.key.lbPoolName)
          unlessFailed pool deleteVMIPPool) s := ⟨And.right, And.intro trivial⟩
    _ ↔ ∀ pool, Returns (unlessFailed pool deleteVMIPPool) s :=
        returns_unlessFailed.trans ⟨And.right, And.intro trivial⟩
    _ ↔ ¬ Dangling s := returns_unlessFailed.trans returns_deleteVMIPPool_iff

/-- The record of the pool of the load balancer does not matter. -/
theorem dangling_deleteCustom : Dangling { s with status := { s.status with
    conditions := s.status.conditions.delete "CustomIPPoolCreated" } } ↔ Dangling s := by
  have hsame : vmPoolOwned (s.status.conditions.delete "CustomIPPoolCreated") =
      vmPoolOwned s.status.conditions := Conditions.isTrue_lookup (by
    rw [Conditions.delete, Table.lookup_erase_eq, if_neg (by decide)])
  unfold Dangling
  rw [hsame]

theorem returns_reconcileDelete_iff : Returns (reconcileDelete sc) s ↔ ¬ Dangling s := by
  have hlb : Returns (reconcileDelete sc) s ↔
      Returns (if s.status.conditions.isTrue "CustomIPPoolCreated" then do
        let pool ← call (.deletePool s.spec.loadBalancerConfig.ipPoolRef)
        unlessFailed pool do
          deleteCondition "CustomIPPoolCreated"
          deleteGenerated sc
      else deleteGenerated sc) s :=
    Iff.trans ⟨And.right, And.intro trivial⟩ returns_unlessFailed
  rw [hlb]
  split_ifs
  · refine Iff.trans ⟨And.right, And.intro trivial⟩ (returns_unlessFailed.trans ?_)
    exact returns_deleteGenerated_iff.trans (not_congr dangling_deleteCustom)
  · exact returns_deleteGenerated_iff

end Returns

/-- A deletion finds in `s` what it finds in `c`. -/
structure Alike (c s : HarvesterCluster) : Prop where
  deleting : s.deleting = c.deleting
  config : s.spec.vmNetworkConfig = none ↔ c.spec.vmNetworkConfig = none
  owned : c.spec.vmNetworkConfig = none →
    vmPoolOwned s.status.conditions = vmPoolOwned c.status.conditions

def Req.patches : Req → Bool
  | .patchConditions _ _ => true
  | .patchObject _ => true
  | .patchStatus _ => true
  | _ => false

abbrev Steady {α : Type} (c : HarvesterCluster) (b : Pass α) : Prop :=
  Body.Maintains (fun (_ : Unit) r => r.patches = false) (fun u _ _ => u) (fun _ s => Alike c s) b

section Steady

variable {ext : Externals} {sc : Scope} {k : ObjectKey} {c s : HarvesterCluster}

theorem Alike.refl (c : HarvesterCluster) : Alike c c := ⟨rfl, Iff.rfl, fun _ => rfl⟩

theorem Alike.dangling (h : Alike c s) : Dangling s ↔ Dangling c := by
  unfold Dangling
  rw [h.config]
  exact and_congr_left fun hconfig => by rw [h.owned hconfig]

theorem steady_call {r : Req} (h : r.patches = false) : Steady c (call r) :=
  Body.Maintains.request fun _ _ hs => ⟨h, fun _ => hs⟩

theorem steady_modifySpec {f : HarvesterClusterSpec → HarvesterClusterSpec}
    (hf : ∀ spec, (f spec).vmNetworkConfig = none ↔ spec.vmNetworkConfig = none) :
    Steady c (modifySpec f) :=
  Body.Maintains.modify fun _ s hs => ⟨hs.deleting, (hf s.spec).trans hs.config, hs.owned⟩

theorem steady_modifyStatus {f : HarvesterClusterStatus → HarvesterClusterStatus}
    (hf : ∀ st, vmPoolOwned (f st).conditions = vmPoolOwned st.conditions) :
    Steady c (modifyStatus f) :=
  Body.Maintains.modify fun _ s hs =>
    ⟨hs.deleting, hs.config, fun hconfig => (hf s.status).trans (hs.owned hconfig)⟩

theorem steady_finalizers (f : List String → List String) :
    Steady c (Body.modify fun s => { s with finalizers := f s.finalizers }) :=
  Body.Maintains.modify fun _ _ hs => ⟨hs.deleting, hs.config, hs.owned⟩

theorem steady_setCondition {type : String} (h : "VMIPPoolCreatedByController" ≠ type)
    (cond : Condition) : Steady c (setCondition type cond) :=
  steady_modifyStatus fun _ => Conditions.isTrue_lookup
    ((Conditions.lookup_set _ _ _ _).trans (if_neg h))

theorem steady_indifferent : Indifferent (fun (_ : Unit) r => r.patches = false) (fun u _ _ => u)
    (fun _ s => Alike c s) where
  call {r} hr := steady_call (by cases r <;> first | rfl | cases hr)
  report {type} htype := by
    have hother : ∀ type ∈ reports, "VMIPPoolCreatedByController" ≠ type := by decide
    exact steady_setCondition (hother type htype)
  server _ := steady_modifySpec fun _ => Iff.rfl
  failureDomains _ := steady_modifyStatus fun _ => rfl

theorem steady_setReady (ready : Bool) : Steady c (setReady ready) :=
  steady_modifyStatus fun _ => rfl

theorem steady_setControlPlaneEndpoint (host : String) : Steady c (setControlPlaneEndpoint host) :=
  steady_modifySpec fun _ => Iff.rfl

theorem steady_reconcileHarvesterConfig : Steady c (reconcileHarvesterConfig ext) :=
  maintains_reconcileHarvesterConfig steady_indifferent (steady_setReady _)

theorem steady_reconcilePlaceholder : Steady c (reconcilePlaceholder ext sc) := by
  have happend : ∀ cond, Steady c (appendCondition "CustomIPPoolCreated" cond) := fun _ =>
    steady_modifyStatus fun _ => Conditions.isTrue_lookup
      ((Table.lookup_insert_eq _ _ _ _).trans (if_neg (by decide)))
  have hcreate : Steady c (createIPPoolIfNotExists sc) :=
    maintains_createIPPoolIfNotExists steady_indifferent (fun _ => steady_call rfl) happend
      (steady_setReady _)
  have href : ∀ name, Steady c (setLBPoolRef name) := fun _ => steady_modifySpec fun _ => Iff.rfl
  exact maintains_reconcilePlaceholder steady_indifferent
    (maintains_getIPFromIPPool steady_indifferent hcreate href fun _ _ => steady_call rfl)
    steady_setControlPlaneEndpoint (steady_setReady _)

theorem steady_reconcileLoadBalancer : Steady c (reconcileLoadBalancer ext sc) :=
  maintains_reconcileLoadBalancer steady_indifferent
    (maintains_reconcileCloudProviderConfig steady_indifferent (fun _ _ => steady_call rfl)
      (steady_setCondition (by decide)))
    (maintains_awaitLoadBalancer steady_indifferent steady_setControlPlaneEndpoint
      (steady_setReady _) (steady_setCondition (by decide)))
    (maintains_reconcileFleetIntegration steady_indifferent (fun _ _ => steady_call rfl)
      (steady_setCondition (by decide)))

/-- Only a cluster with a network configuration gets a pool and its record. -/
theorem steady_reconcileVMIPPool : Steady c (reconcileVMIPPool sc) := by
  by_cases hconfig : c.spec.vmNetworkConfig = none
  · intro v s h
    refine .get_bind ?_
    rw [h.config.mpr hconfig]
    exact h
  · have href : Steady c (setVMPoolRef sc.key.vmPoolName) :=
      steady_modifySpec fun _ => Option.map_eq_none_iff
    have hrecord : ∀ cond, Steady c (setCondition "VMIPPoolCreatedByController" cond) := fun _ =>
      Body.Maintains.modify fun _ _ hs => ⟨hs.deleting, hs.config, fun h => absurd h hconfig⟩
    exact maintains_reconcileVMIPPool steady_indifferent href
      (maintains_createVMIPPool steady_indifferent (fun _ => steady_call rfl) href hrecord)

theorem steady_reconcileNormal : Steady c (reconcileNormal ext sc) := by
  refine .bind .get fun s => ?_
  split_ifs
  · exact .bind (steady_finalizers _) fun _ => .pure _
  · exact maintains_reconcileInfrastructure steady_indifferent steady_reconcileVMIPPool
      steady_reconcilePlaceholder steady_reconcileLoadBalancer
  · exact .bind (steady_finalizers (addFinalizer · clusterFinalizer)) fun _ => .pure _

theorem steady_reconcileDelete (h : ¬ Dangling c) : Steady c (reconcileDelete sc) := by
  have hcustom : Steady c (deleteCondition "CustomIPPoolCreated") :=
    steady_modifyStatus fun _ => Conditions.isTrue_lookup
      ((Table.lookup_erase_eq _ _ _).trans (if_neg (by decide)))
  have hrecord : Steady c (deleteCondition "VMIPPoolCreatedByController") := by
    refine Body.Maintains.modify fun _ s hs => ⟨hs.deleting, hs.config, fun hconfig => ?_⟩
    -- Without a network configuration there was no record to delete.
    have howned : vmPoolOwned c.status.conditions = false :=
      Bool.eq_false_iff.mpr fun htrue => h ⟨htrue, hconfig⟩
    rw [howned]
    refine Bool.eq_false_iff.mpr fun htrue => ?_
    obtain ⟨cond, hcond, -⟩ := (Conditions.isTrue_iff _ _).mp htrue
    exact nomatch (AList.lookup_erase _ _).symm.trans hcond
  exact maintains_reconcileDelete steady_indifferent (fun _ => steady_call rfl)
    (fun _ => steady_call rfl) hcustom
    (maintains_deleteVMIPPool (fun _ => steady_call rfl) hrecord steady_finalizers)

theorem steady_reconcileBody (h : ¬ Dangling c) : Steady c (reconcileBody ext k) := by
  refine .bind (steady_call rfl) fun owner => ?_
  rcases owner with e | _ | clusterOwner
  · exact .pure _
  · exact .pure _
  refine .bind .get fun _ => .bind (steady_call rfl) fun paused => ?_
  split_ifs
  · exact .bind (maintains_recordPaused steady_indifferent paused) fun _ => .pure _
  refine .bind steady_reconcileHarvesterConfig fun config => ?_
  cases config with
  | error e => exact .pure _
  | ok kubeconfig =>
    dsimp only
    split
    · exact .pure _
    refine .bind .get fun s => ?_
    split_ifs
    · exact steady_reconcileDelete h
    · exact steady_reconcileNormal

theorem always_reconcileHarvesterConfig (h : Alike c s) :
    Body.Always (reconcileHarvesterConfig ext) s fun out s' => out ≠ none ∧ Alike c s' := by
  have hset : ∀ {s} (cond : Condition), Alike c s → Alike c { s with status := { s.status with
      conditions := s.status.conditions.set "HarvesterConnectionReady" cond } } :=
    fun cond h => steady_setCondition (by decide) cond () _ h
  have hfail : ∀ {s} reason message (e : String), Alike c s → Body.Always (do
      connectionNotReady reason message
      pure (.error e : Except String String)) s fun out s' => out ≠ none ∧ Alike c s' :=
    fun _ _ _ h => ⟨nofun, hset _ h⟩
  have hunset : ∀ {s} reason message (e : String), Alike c s → Body.Always (do
      setReady false
      connectionNotReady reason message
      pure (.error e : Except String String)) s fun out s' => out ≠ none ∧ Alike c s' :=
    fun _ _ _ h => hfail _ _ _ ⟨h.deleting, h.config, h.owned⟩
  have hbegun := hset ⟨.false_, "HarvesterConnectionInProgress",
    "Attempting to connect to Harvester"⟩ h
  unfold reconcileHarvesterConfig
  refine .modify_bind (.get_bind (.request_bind trivial fun secret => ?_))
  cases secret with
  | error e => exact hunset _ _ _ hbegun
  | ok kubeconfig =>
    dsimp only
    split
    · exact hunset _ _ _ hbegun
    next server _ =>
    have hserver := steady_modifySpec (c := c) (f := fun spec => { spec with server := server })
      (fun _ => Iff.rfl) () _ hbegun
    refine .modify_bind ?_
    split
    · exact hfail _ _ _ hserver
    split
    · exact hfail _ _ _ hserver
    refine .request_bind trivial fun deployment => ?_
    cases deployment with
    | error e => exact hfail _ _ _ hserver
    | ok conditions =>
      dsimp only
      split_ifs
      · exact hfail _ _ _ hserver
      · exact ⟨nofun, hset _ hserver⟩

theorem returns_recordPaused (paused : PausedResult) :
    Returns (do recordPaused paused; pure (Result.empty, paused.err)) s := by
  unfold recordPaused
  cases paused.condition with
  | none => exact nofun
  | some p => exact nofun

/-- A pass of a cluster that is being deleted returns. -/
theorem returns_reconcileBody (hd : c.deleting = true) (h : ¬ Dangling c) :
    Returns (reconcileBody ext k) c := by
  unfold reconcileBody
  refine .request_bind trivial fun owner => ?_
  rcases owner with e | _ | clusterOwner
  · exact nofun
  · exact nofun
  refine .get_bind (.request_bind trivial fun paused => ?_)
  split_ifs
  · exact returns_recordPaused paused
  refine (always_reconcileHarvesterConfig (.refl c)).bind ?_ fun _ _ hnone => absurd rfl hnone.1
  rintro - (e | kubeconfig) s ⟨-, hs⟩
  · exact nofun
  dsimp only
  split
  · exact nofun
  refine .get_bind ?_
  -- What the connection changed in memory is nothing that the deletion reads.
  rw [hs.deleting, if_pos hd]
  exact returns_reconcileDelete_iff.mpr (hs.dangling.not.mpr h)

end Steady

/-- A deletion of the cluster would find what it needs. -/
def Deletable (k : ObjectKey) (w : World) : Prop :=
  ∀ c, w.clusters.lookup k = some c → ¬ Dangling c

/-- If the stored cluster has no network configuration, neither it nor what a pass has in memory
has a pool on record. -/
def Unrecorded (k : ObjectKey) (s : HarvesterCluster) (w : World) : Prop :=
  ∀ c, w.clusters.lookup k = some c → c.spec.vmNetworkConfig = none →
    vmPoolOwned c.status.conditions = false ∧ vmPoolOwned s.status.conditions = false

section Pass

variable {ext : Externals} {k : ObjectKey} {t t' : Site} {w w' : World} {c s : HarvesterCluster}

/-- Between the patches, only the check for the pause writes the stored cluster. -/
theorem Responds.stored {r : Req} {x : Resp r} (h : Responds k t r x t')
    (hr : r.patches = false) (hstored : ∀ c' ∈ t.world.clusters.lookup k, SameButPaused c c') :
    ∀ c' ∈ t'.world.clusters.lookup k, SameButPaused c c' := by
  have hclusters : t'.world.clusters = t.world.clusters →
      ∀ c' ∈ t'.world.clusters.lookup k, SameButPaused c c' := fun heq => by rwa [heq]
  by_cases hside : r.aside = true
  · exact hclusters (Prod.mk.inj (h.aside hside)).1
  · cases r with
    | updateConfigMap n data => exact hclusters h.updateConfigMap.1
    | updateFleetCluster name labels => exact hclusters h.updateFleetCluster.1
    | patchConditions before after => cases hr
    | patchObject p => cases hr
    | patchStatus p => cases hr
    | ensurePausedCondition o recorded =>
      obtain ⟨a, hexec, -⟩ := h
      obtain ⟨-, hw⟩ := Prod.mk.inj hexec
      rw [← hw]
      refine ensurePaused_rule (E := fun w' => ∀ c' ∈ w'.clusters.lookup k, SameButPaused c c')
        hstored fun c₀ hc₀ c' hc' => ?_
      obtain rfl := Option.some.inj ((AList.lookup_insert _).symm.trans hc')
      exact (hstored c₀ hc₀).trans (.markPaused c₀ _)
    | _ => exact absurd rfl hside

theorem Alike.of_sameButPaused {c' : HarvesterCluster} (h : SameButPaused c c') :
    Alike c c' where
  deleting := by rw [h.eq]
  config := by rw [h.eq]
  owned _ := Conditions.isTrue_lookup (h.conditions _ (by decide))

theorem vmNetworkConfig_apply (p : ObjectPatch) (c : HarvesterCluster) :
    (p.apply c).spec.vmNetworkConfig = none ↔ c.spec.vmNetworkConfig = none := by
  unfold ObjectPatch.apply
  dsimp only
  cases p.vmPoolRef with
  | none => rfl
  | some ref => exact Option.map_eq_none_iff

theorem Unrecorded.setCluster (h : c.spec.vmNetworkConfig = none →
      vmPoolOwned c.status.conditions = false ∧ vmPoolOwned s.status.conditions = false) :
    Unrecorded k s (w.setCluster k c) := by
  intro c' hc'
  obtain rfl := Option.some.inj ((AList.lookup_insert _).symm.trans hc')
  exact h

theorem Responds.unrecorded {r : Req} {x : Resp r} (h : Responds k t r x t') (hr : PatchTo s r)
    (hstored : Unrecorded k s t.world) : Unrecorded k s t'.world := by
  obtain ⟨a, hexec, -⟩ := h
  obtain ⟨-, hw⟩ := Prod.mk.inj hexec
  rw [← hw]
  refine hr.exec_rule a (E := Unrecorded k s) hstored (fun before c cs hc hcs => ?_)
    (fun c p hc => ?_) (fun c' hc' => by simp at hc') fun c p hc => ?_
  · refine .setCluster fun hconfig => ?_
    obtain ⟨hlatest, hmemory⟩ := hstored c hc hconfig
    refine ⟨Bool.eq_false_iff.mpr fun hmerged => ?_, hmemory⟩
    -- The record would come from the stored conditions or from memory.
    have hrecorded : vmPoolOwned s.status.conditions = true :=
      isTrue_merge hcs (fun htrue => absurd htrue (Bool.eq_false_iff.mp hlatest)) hmerged
    exact absurd hrecorded (Bool.eq_false_iff.mp hmemory)
  · exact .setCluster fun hconfig => hstored c hc ((vmNetworkConfig_apply p c).mp hconfig)
  · exact .setCluster fun hconfig => hstored c hc hconfig

theorem Unrecorded.deletable (h : Unrecorded k s w) : Deletable k w := by
  rintro c hc ⟨howned, hconfig⟩
  exact absurd howned (Bool.eq_false_iff.mp (h c hc hconfig).1)

/-- A pass leaves a cluster deletable. -/
theorem deletable_reconcile {out : Outcome} (h : Deletable k t.world)
    (he : Executes (Responds k) t (reconcile ext k) t' out) : Deletable k t'.world := by
  have hread : ∀ {u : Site}, Unmoved t u → Deletable k u.world := by
    intro u hu c hc
    rw [(Prod.mk.inj hu.steps).1] at hc
    exact h c hc
  rcases executes_reconcile he with hsame | ⟨c, t₁, t₂, out, s, e, hsame, hc, hbody, hpatch⟩
  · exact hread hsame
  -- The body marks the pause at most; the deferred patch writes the rest, from what is in memory.
  have hread₁ : ∀ c' ∈ t₁.world.clusters.lookup k, SameButPaused c c' := by
    intro c' hc'
    obtain rfl := Option.some.inj (hc.symm.trans hc')
    exact .refl c
  obtain ⟨_, hs, hstored⟩ := Body.Maintains.leads (R := Responds k) (v := ())
    (J := fun _ u => ∀ c' ∈ u.world.clusters.lookup k, SameButPaused c c')
    (steady_reconcileBody (hread hsame c hc))
    (fun _ _ _ _ _ hr hx hu => hx.stored hr hu) (.refl c) hread₁ _ _ hbody
  have hmemory : Unrecorded k (mirrorReady s) t₂.world := by
    intro c' hc' hconfig
    have halike := Alike.of_sameButPaused (hstored c' hc')
    have hnone : c.spec.vmNetworkConfig = none := halike.config.mp hconfig
    have howned : vmPoolOwned c.status.conditions = false :=
      Bool.eq_false_iff.mpr fun htrue => hread hsame c hc ⟨htrue, hnone⟩
    exact ⟨(halike.owned hnone).trans howned, (hs.owned hnone).trans howned⟩
  obtain ⟨_, -, hunrecorded⟩ := Prog.Conforms.executes
    (I := fun (_ : Unit) (u : Site) => Unrecorded k (mirrorReady s) u.world)
    (patches_patchHelper c (mirrorReady s)) (fun _ _ _ _ _ hr hx hu => hx.unrecorded hr hu) hpatch
    hmemory
  exact hunrecorded.deletable

end Pass

/-- No edit takes the network configuration away while its pool is on record, and only the passes
of the cluster write the record. -/
def Retains (k : ObjectKey) (t : Site) : Move → Prop
  | .env (.editCluster k' spec) => k' = k → ∀ c ∈ t.world.clusters.lookup k,
      vmPoolOwned c.status.conditions = true → spec.vmNetworkConfig ≠ none
  | .env (.patchClusterStatus k' cs) => k' = k → ∀ c ∈ t.world.clusters.lookup k,
      vmPoolOwned cs = true → vmPoolOwned c.status.conditions = true
  | _ => True

def Attentive (ext : Externals) (k : ObjectKey) (t t' : Site) : Prop :=
  ∃ move, Retains k t move ∧ Step ext k t move t'

section Runs

variable {ext : Externals} {k : ObjectKey} {t t' : Site} {w w' : World}

theorem Deletable.of_clusters (h : Deletable k w) (hw : w'.clusters = w.clusters) :
    Deletable k w' := by
  intro c hc
  rw [hw] at hc
  exact h c hc

theorem Deletable.insert (h : Deletable k w) {j : ObjectKey} {c : HarvesterCluster}
    (hw : w'.clusters = w.clusters.insert j c) (hc : j = k → ¬ Dangling c) : Deletable k w' := by
  intro c' hc'
  rw [hw, Table.lookup_insert_eq] at hc'
  split_ifs at hc' with hj
  · obtain rfl := Option.some.inj hc'
    exact hc hj.symm
  · exact h c' hc'

theorem Deletable.erase (h : Deletable k w) {j : ObjectKey}
    (hw : w'.clusters = w.clusters.erase j) : Deletable k w' := by
  intro c hc
  rw [hw, Table.lookup_erase_eq] at hc
  split_ifs at hc
  exact h c hc

theorem Deletable.env (h : Deletable k t.world) {e : Env} (hok : Retains k t (.env e))
    (he : EnvEffect t.world e w') : Deletable k w' := by
  cases he with
  | elsewhere hclusters _ _ => exact h.of_clusters hclusters
  | createCluster _ _ =>
    -- A new cluster has an empty status.
    exact h.insert rfl fun _ hdangling => nomatch hdangling.1
  | editCluster hs _ =>
    refine h.insert rfl ?_
    rintro rfl ⟨howned, hconfig⟩
    exact hok rfl _ hs howned hconfig
  | eraseCluster _ _ => exact h.erase rfl
  | markCluster hs =>
    refine h.insert rfl ?_
    rintro rfl hdangling
    exact h _ hs hdangling
  | patchClusterStatus hs =>
    refine h.insert rfl ?_
    rintro rfl ⟨howned, hconfig⟩
    exact h _ hs ⟨hok rfl _ hs howned, hconfig⟩
  | _ => exact h.of_clusters rfl

theorem Deletable.step (h : Deletable k t.world) (hs : Attentive ext k t t') :
    Deletable k t'.world := by
  obtain ⟨move, hmove, hstep⟩ := hs
  cases hstep with
  | env e => exact h.env hmove (env_effect t.world e)
  | owner o => exact h
  | management m => exact h
  | pass he => exact deletable_reconcile h he

theorem Deletable.run (h : Deletable k t.world)
    (hrun : Relation.ReflTransGen (Attentive ext k) t t') : Deletable k t'.world := by
  induction hrun with
  | refl => exact h
  | tail _ hstep ih => exact ih.step hstep

end Runs

/-- `ReconcileDelete` returns, whatever the responses, exactly if the record of the pool of the VMs
does not outlive the configuration that names it. In every run in which no admitted edit removes
that configuration while the record is True, every pass of a deleted cluster returns. -/
theorem deletion_returns_iff (ext : Externals) (k : ObjectKey) :
    (∀ (sc : Scope) (c : HarvesterCluster), Returns (reconcileDelete sc) c ↔ ¬ Dangling c) ∧
    ∀ t₀ t : Site, t₀.world.clusters.lookup k = none →
      Relation.ReflTransGen (Attentive ext k) t₀ t →
      ∀ c, t.world.clusters.lookup k = some c → c.deleting = true →
        Returns (reconcileBody ext k) c := by
  refine ⟨fun _ _ => returns_reconcileDelete_iff, fun t₀ t h₀ hrun c hc hd => ?_⟩
  have hstart : Deletable k t₀.world := fun c hc => nomatch h₀.symm.trans hc
  exact returns_reconcileBody hd (hstart.run hrun c hc)

namespace Sample

def editedAndDeleted (config : Option VMNetworkConfig) : List Move :=
  [.env (.createCluster keyX [clusterFinalizer] vmPoolSpec), .pass, .pass,
    .env (.editCluster keyX { spec with vmNetworkConfig := config }), .env (.deleteCluster keyX)]

def sharedPool : VMNetworkConfig :=
  ⟨"", ["shared"], none, "10.0.0.1", "255.255.255.0", [], []⟩

end Sample

open Sample in
/-- The configuration is replaced, and the deletion returns. -/
theorem deletion_returns_sample :
    ∃ c, (moves ext keyX noCluster (editedAndDeleted (some sharedPool))).world.clusters.lookup
        keyX = some c ∧
      vmPoolOwned c.status.conditions = true ∧ c.spec.vmNetworkConfig = some sharedPool ∧
      Returns (reconcileBody ext keyX) c := by
  have hreached : ∃ c ∈ (moves ext keyX noCluster
      (editedAndDeleted (some sharedPool))).world.clusters.lookup keyX, c.deleting = true ∧
        vmPoolOwned c.status.conditions = true ∧ c.spec.vmNetworkConfig = some sharedPool := by
    decide +kernel
  obtain ⟨c, hc, hd, howned, hconfig⟩ := hreached
  have hmove : ∀ t m, Retains keyX t m → Attentive ext keyX t (move ext keyX t m) :=
    fun t m hm => ⟨m, hm, step_move ext keyX t m⟩
  have hrun : Relation.ReflTransGen (Attentive ext keyX) noCluster
      (moves ext keyX noCluster (editedAndDeleted (some sharedPool))) := by
    refine .head (hmove _ (.env (.createCluster keyX [clusterFinalizer] vmPoolSpec)) trivial) ?_
    refine .head (hmove _ .pass trivial) (.head (hmove _ .pass trivial) ?_)
    refine .head (hmove _ (.env (.editCluster keyX
      { spec with vmNetworkConfig := some sharedPool })) fun _ _ _ _ => Option.some_ne_none _) ?_
    exact .single (hmove _ (.env (.deleteCluster keyX)) trivial)
  exact ⟨c, hc, howned, hconfig, (deletion_returns_iff ext keyX).2 _ _ rfl hrun c hc hd⟩

open Sample in
/-- The configuration is removed, which the webhook admits. The deletion dereferences the nil
pointer, and the finalizer stays. -/
theorem admitted_edit_breaks_deletion :
    ∃ t t' c, Relation.ReflTransGen (fun t t' => ∃ m, Step ext keyX t m t') noCluster t ∧
      t.world.clusters.lookup keyX = some c ∧ c.deleting = true ∧ Admitted c.spec ∧
      ¬ Returns (reconcileDelete ⟨keyX, t.owner⟩) c ∧
      Executes (Responds keyX) t (reconcile ext keyX) t' (.empty, some "panic") ∧
      ∃ c', t'.world.clusters.lookup keyX = some c' ∧ clusterFinalizer ∈ c'.finalizers := by
  have hreached : (∃ c ∈ (moves ext keyX noCluster
        (editedAndDeleted none)).world.clusters.lookup keyX,
          c.deleting = true ∧ Admitted c.spec ∧ Dangling c) ∧
      (sitePass ext keyX (moves ext keyX noCluster (editedAndDeleted none))).1 =
        (.empty, some "panic") ∧
      ∃ c' ∈ (sitePass ext keyX (moves ext keyX noCluster
        (editedAndDeleted none))).2.world.clusters.lookup keyX,
          clusterFinalizer ∈ c'.finalizers := by
    decide +kernel
  obtain ⟨⟨c, hc, hd, hadm, hdangling⟩, hout, c', hc', hfinalizer⟩ := hreached
  have hpass := executes_sitePass ext keyX (moves ext keyX noCluster (editedAndDeleted none))
  rw [hout] at hpass
  exact ⟨_, _, c, reaches_moves _ _ _ _, hc, hd, hadm,
    fun h => returns_reconcileDelete_iff.mp h hdangling, hpass, c', hc', hfinalizer⟩

end Caphv.Cluster
