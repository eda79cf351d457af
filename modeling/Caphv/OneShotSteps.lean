import Caphv.ClusterEffects
import Caphv.ClusterObservers
import Caphv.ManifestSecrets

namespace Caphv.Cluster

open Prog (Executes)
open Body (Leads)

/-- What the passes of one cluster meet: the stored objects, the owner, and the management cluster
that was imported for it. -/
structure Site where
  world : World
  owner : Owner
  management : Option String

/-- The management cluster that a list of provisioning clusters names for the owner. -/
def managementOf (owner : Owner) (provClusters : List (String × Option String)) : Option String :=
  (provClusters.filterMap fun pc => if pc.1 = owner.key.name then pc.2 else none).find? fun name =>
    name ≠ ""

def AutoImport (owner : Owner) : Prop :=
  owner.labels.lookup "cluster-api.cattle.io/rancher-auto-import" = some "true"

/-- The referenced ConfigMap has a manifest with the credentials. -/
def Configured {δ ρ : Type} (codec : ManifestCodec δ ρ) (w : World)
    (cfg : UpdateCloudProviderConfig) : Prop :=
  ∃ stored ∈ w.configMaps.lookup ⟨cfg.manifestsConfigMapNamespace, cfg.manifestsConfigMapName⟩,
    ∃ manifest ∈ stored.val.lookup cfg.manifestsConfigMapKey,
      codec.Contains manifest cfg.cloudConfigCredentialsSecretName "kube-system"
        cfg.cloudConfigCredentialsSecretKey

def Labelled (t : Site) : Prop :=
  ∃ name ∈ t.management, ∃ fleetCluster ∈ t.world.fleetClusters.lookup name,
    ∀ l ∈ labelsToPropagate t.owner, fleetCluster.val.lookup l.1 = some l.2

def cloudDone (c : HarvesterCluster) : Bool := c.status.conditions.isTrue "CloudProviderConfigReady"

def fleetDone (c : HarvesterCluster) : Bool := c.status.conditions.isTrue "FleetIntegrationReady"

/-- What a condition of the cluster says is done has been done for what is wanted now. -/
structure UpToDate {δ ρ : Type} (codec : ManifestCodec δ ρ) (t : Site) (c : HarvesterCluster) :
    Prop where
  cloud : cloudDone c = true → c.spec.updateCloudProviderConfig ≠ ⟨"", "", "", "", ""⟩ →
    Configured codec t.world c.spec.updateCloudProviderConfig
  fleet : fleetDone c = true → AutoImport t.owner → Labelled t

def Truthful (t : Site) : (r : Req) → Resp r → Prop
  | .getOwnerCluster, x => ∀ owner, x = .ok (some owner) → owner = t.owner
  | .listProvisioningClusters _, x =>
    ∀ list, x = .ok list → managementOf t.owner list = t.management
  | _, _ => True

def Responds (k : ObjectKey) (t : Site) (r : Req) (x : Resp r) (t' : Site) : Prop :=
  ∃ a : Answer r, exec k r a t.world = (x, t'.world) ∧ t'.owner = t.owner ∧
    t'.management = t.management ∧ Truthful t r x

def World.steps (w : World) : Table ObjectKey HarvesterCluster ×
    Table NamespacedName (Versioned (Table String String)) ×
    Table String (Versioned (Table String String)) :=
  (w.clusters, w.configMaps, w.fleetClusters)

section Responds

variable {k : ObjectKey} {t t' : Site}

theorem steps_write {α : Type} {f : Fault} {w : World} {out : Except ApiError (α × World)}
    (h : ∀ a w', out = .ok (a, w') → w'.steps = w.steps) : (f.write w out).2.steps = w.steps :=
  Fault.write_rule (E := fun _ w' => w'.steps = w.steps) (fun _ a w' hout _ => h a w' hout)
    fun _ _ => rfl

theorem steps_note (w : World) (r : Req) (x : Resp r) : (w.note k r x).steps = w.steps := by
  unfold World.note
  split
  · rfl
  · split_ifs <;> rfl
  · rfl

theorem steps_exec {r : Req} (hr : r.aside = true) (a : Answer r) (w : World) :
    (exec k r a w).2.steps = w.steps := by
  refine (steps_note _ r _).trans ?_
  -- What is written are pools, Services and load balancers.
  cases r with
  | createPool n spec =>
    refine steps_write fun b w' h => ?_
    unfold World.createPool at h
    split_ifs at h
    cases h
    rfl
  | updatePool n p =>
    refine steps_write fun b w' h => ?_
    unfold World.updatePool at h
    split at h
    · cases h
    · split_ifs at h
      cases h
      rfl
  | deletePool n =>
    refine steps_write fun b w' h => ?_
    unfold World.deletePool at h
    split_ifs at h
    split at h
    · cases h
    · cases h
      rfl
  | createService n ip =>
    refine steps_write fun b w' h => ?_
    unfold World.createService at h
    split_ifs at h
    cases h
    rfl
  | updateService n svc =>
    exact updateVersioned_rule (E := fun _ w' => w'.steps = w.steps) (fun _ => rfl) fun _ => rfl
  | deleteService n =>
    refine steps_write fun b w' h => ?_
    unfold World.deleteService at h
    split at h
    · cases h
    · cases h
      rfl
  | createLoadBalancer n spec =>
    refine steps_write fun b w' h => ?_
    unfold World.createLoadBalancer at h
    split_ifs at h
    cases h
    rfl
  | deleteLoadBalancer n =>
    refine steps_write fun b w' h => ?_
    unfold World.deleteLoadBalancer at h
    split at h
    · cases h
    · cases h
      rfl
  | updateConfigMap n data => cases hr
  | updateFleetCluster n labels => cases hr
  | ensurePausedCondition o recorded => cases hr
  | patchConditions b a => cases hr
  | patchObject p => cases hr
  | patchStatus p => cases hr
  | _ => rfl

theorem Responds.owner {r : Req} {x : Resp r} (h : Responds k t r x t') : t'.owner = t.owner :=
  h.choose_spec.2.1

theorem Responds.management {r : Req} {x : Resp r} (h : Responds k t r x t') :
    t'.management = t.management := h.choose_spec.2.2.1

theorem Responds.truthful {r : Req} {x : Resp r} (h : Responds k t r x t') : Truthful t r x :=
  h.choose_spec.2.2.2

theorem Responds.aside {r : Req} {x : Resp r} (h : Responds k t r x t') (hr : r.aside = true) :
    t'.world.steps = t.world.steps := by
  obtain ⟨a, hexec, -⟩ := h
  have hw : (exec k r a t.world).2 = t'.world := congrArg Prod.snd hexec
  rw [← hw, steps_exec hr]

theorem Responds.updateConfigMap {n : NamespacedName} {data : Versioned (Table String String)}
    {x : Except ApiError Unit} (h : Responds k t (.updateConfigMap n data) x t') :
    t'.world.clusters = t.world.clusters ∧ t'.world.fleetClusters = t.world.fleetClusters ∧
      (x = .ok () → ∃ stored, t'.world.configMaps.lookup n = some stored ∧
        stored.val = data.val) := by
  obtain ⟨f, hexec, -⟩ := h
  obtain ⟨rfl, hw⟩ := Prod.mk.inj hexec
  rw [← hw]
  exact updateVersioned_rule (E := fun x (w' : World) => w'.clusters = t.world.clusters ∧
    w'.fleetClusters = t.world.fleetClusters ∧ (x = .ok () → ∃ stored,
      w'.configMaps.lookup n = some stored ∧ stored.val = data.val))
    (fun _ => ⟨rfl, rfl, fun _ => ⟨_, AList.lookup_insert _, rfl⟩⟩) fun _ => ⟨rfl, rfl, nofun⟩

theorem Responds.listFleetClusters {list : List (String × Versioned (Table String String))}
    {name : String} {fleetCluster : Versioned (Table String String)}
    (h : Responds k t .listFleetClusters (.ok list) t') (hmem : (name, fleetCluster) ∈ list) :
    t.world.fleetClusters.lookup name = some fleetCluster := by
  obtain ⟨f, hexec, -⟩ := h
  have hx : Fault.reply f (.ok t.world.listFleetClusters) = .ok list := congrArg Prod.fst hexec
  obtain rfl := Except.ok.inj (Fault.reply_eq_ok hx)
  obtain ⟨e, he, heq⟩ := List.mem_map.mp hmem
  obtain ⟨rfl, rfl⟩ := Prod.mk.inj heq
  exact AList.mem_lookup_iff.mpr he

theorem Responds.updateFleetCluster {name : String} {labels : Versioned (Table String String)}
    {x : Except ApiError Unit} (h : Responds k t (.updateFleetCluster name labels) x t') :
    t'.world.clusters = t.world.clusters ∧ t'.world.configMaps = t.world.configMaps ∧
      (x = .ok () → ∃ stored, t'.world.fleetClusters.lookup name = some stored ∧
        stored.val = labels.val) := by
  obtain ⟨f, hexec, -⟩ := h
  obtain ⟨rfl, hw⟩ := Prod.mk.inj hexec
  rw [← hw]
  exact updateVersioned_rule (E := fun x (w' : World) => w'.clusters = t.world.clusters ∧
    w'.configMaps = t.world.configMaps ∧ (x = .ok () → ∃ stored,
      w'.fleetClusters.lookup name = some stored ∧ stored.val = labels.val))
    (fun _ => ⟨rfl, rfl, fun _ => ⟨_, AList.lookup_insert _, rfl⟩⟩) fun _ => ⟨rfl, rfl, nofun⟩

structure Unmoved (t t' : Site) : Prop where
  owner : t'.owner = t.owner
  management : t'.management = t.management
  steps : t'.world.steps = t.world.steps

/-- A pass that has read the cluster runs its body and then its patch; any other does nothing. -/
theorem executes_reconcile {ext : Externals} {out : Outcome}
    (h : Executes (Responds k) t (reconcile ext k) t' out) :
    Unmoved t t' ∨ ∃ c t₁ t₂ out s e, Unmoved t t₁ ∧ t₁.world.clusters.lookup k = some c ∧
      Executes (Responds k) t₁ (reconcileBody ext k c) t₂ (out, s) ∧
      Executes (Responds k) t₂ (patchHelper c (mirrorReady s)) t' e := by
  obtain ⟨got, t₁, hgot, h⟩ := Prog.executes_request_bind h
  have hsame : Unmoved t t₁ := ⟨hgot.owner, hgot.management, hgot.aside rfl⟩
  cases got with
  | error e =>
    left
    dsimp only at h
    split_ifs at h
    · obtain ⟨rfl, -⟩ := Prog.executes_pure h
      exact hsame
    · obtain ⟨rfl, -⟩ := Prog.executes_pure h
      exact hsame
  | ok c =>
    right
    obtain ⟨f, hexec, -⟩ := hgot
    have hx : Fault.reply f (found (t.world.clusters.lookup k)) = .ok c := congrArg Prod.fst hexec
    have hc : t₁.world.clusters.lookup k = some c := by
      rw [(Prod.mk.inj hsame.steps).1]
      exact found_eq_ok (Fault.reply_eq_ok hx)
    obtain ⟨t₂, ⟨out, s⟩, hbody, h⟩ := Prog.executes_bind.mp h
    obtain ⟨t₃, e, hpatch, h⟩ := Prog.executes_bind.mp h
    have ht : t' = t₃ := by
      cases out with
      | none => exact (Prog.executes_pure h).1
      | some out => exact (Prog.executes_pure h).1
    exact ⟨c, t₁, t₂, out, s, e, hsame, hc, hbody, ht ▸ hpatch⟩

end Responds

/-- The same is wanted in `s` as in `c`, and what is done in `c` is done in `s`. -/
structure Ahead (c s : HarvesterCluster) : Prop where
  config : s.spec.updateCloudProviderConfig = c.spec.updateCloudProviderConfig
  cloud : cloudDone c = true → cloudDone s = true
  fleet : fleetDone c = true → fleetDone s = true

/-- The site has the owner, the management cluster and, for the two steps, the stored clusters of
`t₀`, and the cluster in memory, which was read as `c`, is up to date. -/
structure Midway {δ ρ : Type} (codec : ManifestCodec δ ρ) (t₀ : Site) (c : HarvesterCluster)
    (t : Site) (s : HarvesterCluster) : Prop where
  owner : t.owner = t₀.owner
  management : t.management = t₀.management
  stored : ∀ j c', t.world.clusters.lookup j = some c' →
    ∃ c₀, t₀.world.clusters.lookup j = some c₀ ∧ Ahead c' c₀
  ahead : Ahead c s
  current : UpToDate codec t s

section Pass

variable {δ ρ α β : Type} {codec : ManifestCodec δ ρ} {k : ObjectKey} {ext : Externals}
  {sc : Scope} {t₀ t t' : Site} {c c' s s' : HarvesterCluster}

theorem Ahead.refl (c : HarvesterCluster) : Ahead c c := ⟨rfl, id, id⟩

theorem Ahead.trans (h : Ahead c s) (h' : Ahead s s') : Ahead c s' :=
  ⟨h'.config.trans h.config, h'.cloud ∘ h.cloud, h'.fleet ∘ h.fleet⟩

theorem Agrees.ahead (h : Agrees s s') : Ahead s s' :=
  ⟨h.config, (Conditions.isTrue_lookup h.cloud).trans, (Conditions.isTrue_lookup h.fleet).trans⟩

theorem Agrees.symm (h : Agrees s s') : Agrees s' s :=
  ⟨h.config.symm, h.cloud.symm, h.fleet.symm⟩

/-- What a later version says is done is all that an earlier one says is done. -/
theorem UpToDate.of_ahead (h : UpToDate codec t s) (hs : Ahead c s) (howner : t'.owner = t.owner)
    (hmanagement : t'.management = t.management)
    (hconfigMaps : t'.world.configMaps = t.world.configMaps)
    (hfleet : t'.world.fleetClusters = t.world.fleetClusters) : UpToDate codec t' c := by
  refine ⟨fun hdone hcfg => ?_, fun hdone hauto => ?_⟩
  · rw [← hs.config] at hcfg ⊢
    have hold := h.cloud (hs.cloud hdone) hcfg
    unfold Configured
    rw [hconfigMaps]
    exact hold
  · rw [howner] at hauto
    have hold := h.fleet (hs.fleet hdone) hauto
    unfold Labelled
    rw [hfleet, hmanagement, howner]
    exact hold

/-- Nothing that matters has changed. -/
theorem Midway.same (h : Midway codec t₀ c t s) (howner : t'.owner = t.owner)
    (hmanagement : t'.management = t.management) (hsteps : t'.world.steps = t.world.steps)
    (hs : Agrees s s') : Midway codec t₀ c t' s' := by
  obtain ⟨hclusters, hrest⟩ := Prod.mk.inj hsteps
  obtain ⟨hconfigMaps, hfleet⟩ := Prod.mk.inj hrest
  exact ⟨howner.trans h.owner, hmanagement.trans h.management, hclusters ▸ h.stored,
    h.ahead.trans hs.ahead,
    h.current.of_ahead hs.symm.ahead howner hmanagement hconfigMaps hfleet⟩

theorem Midway.request {r : Req} {x : Resp r} (h : Midway codec t₀ c t s)
    (hx : Responds k t r x t') (hr : r.aside = true) : Midway codec t₀ c t' s :=
  h.same hx.owner hx.management (hx.aside hr) (.refl s)

/-- The check for the pause may write the stored cluster, but nothing of the two steps. -/
theorem Midway.pause {o : Owner} {recorded : Option Condition} {x : PausedResult}
    (h : Midway codec t₀ c t s) (hx : Responds k t (.ensurePausedCondition o recorded) x t') :
    Midway codec t₀ c t' s := by
  have howner := hx.owner
  have hmanagement := hx.management
  obtain ⟨a, hexec, -⟩ := hx
  have hw : (ensurePaused recorded a t.world (t.world.patchPaused k)).2 = t'.world :=
    congrArg Prod.snd hexec
  have hkeep : t'.world.configMaps = t.world.configMaps ∧
      t'.world.fleetClusters = t.world.fleetClusters ∧
      ∀ j c', t'.world.clusters.lookup j = some c' →
        ∃ c₁, t.world.clusters.lookup j = some c₁ ∧ Ahead c' c₁ := by
    rw [← hw]
    refine ensurePaused_rule (E := fun w' => w'.configMaps = t.world.configMaps ∧
      w'.fleetClusters = t.world.fleetClusters ∧ ∀ j c', w'.clusters.lookup j = some c' →
        ∃ c₁, t.world.clusters.lookup j = some c₁ ∧ Ahead c' c₁)
      ⟨rfl, rfl, fun _ c' hc' => ⟨c', hc', .refl c'⟩⟩ fun c₁ hc₁ => ⟨rfl, rfl, fun j c' hc' => ?_⟩
    rw [lookup_setCluster] at hc'
    split_ifs at hc' with hj
    · obtain rfl := Option.some.inj hc'
      refine ⟨c₁, hj ▸ hc₁, rfl, fun hd => ?_, fun hd => ?_⟩
      · exact (Conditions.isTrue_lookup (c₁.lookup_markPaused _ (by decide))).symm.trans hd
      · exact (Conditions.isTrue_lookup (c₁.lookup_markPaused _ (by decide))).symm.trans hd
    · exact ⟨c', hc', .refl c'⟩
  refine ⟨howner.trans h.owner, hmanagement.trans h.management, fun j c' hc' => ?_, h.ahead,
    h.current.of_ahead (.refl s) howner hmanagement hkeep.1 hkeep.2.1⟩
  obtain ⟨c₁, hc₁, hback⟩ := hkeep.2.2 j c' hc'
  obtain ⟨c₀, hc₀, hback₀⟩ := h.stored j c₁ hc₁
  exact ⟨c₀, hc₀, hback.trans hback₀⟩

theorem Aside.leads {b : Pass α} (hb : Aside s b) (h : Midway codec t₀ c t s) :
    Leads (Responds k) t b s fun t' _ s' => Midway codec t₀ c t' s' := by
  have hleads := Body.Maintains.leads (R := Responds k) (v := ())
    (J := fun _ u => u.owner = t.owner ∧ u.management = t.management ∧
      u.world.steps = t.world.steps) hb
    (fun _ u r x u' hr hx hu => ⟨hx.owner.trans hu.1, hx.management.trans hu.2.1,
      (hx.aside hr).trans hu.2.2⟩) (.refl s) ⟨rfl, rfl, rfl⟩
  exact hleads.mono fun _ _ _ ⟨_, hs, howner, hmanagement, hsteps⟩ =>
    h.same howner hmanagement hsteps hs

theorem Aside.leads_bind {b : Pass α} {f : α → Pass β} (hb : Aside s b)
    (h : Midway codec t₀ c t s) (hf : ∀ t a s, Midway codec t₀ c t s →
      Leads (Responds k) t (f a) s fun t' _ s' => Midway codec t₀ c t' s') :
    Leads (Responds k) t (b >>= f) s fun t' _ s' => Midway codec t₀ c t' s' :=
  (hb.leads h).bind hf fun _ _ hnone => hnone

theorem lookup_propagateLabels_of_not_mem {ls : List (String × String)} {key : String}
    (h : key ∉ ls.map Prod.fst) (labels : Table String String) :
    (propagateLabels labels ls).lookup key = labels.lookup key := by
  induction ls generalizing labels with
  | nil => rfl
  | cons l ls ih =>
    obtain ⟨hne, hrest⟩ := not_or.mp (List.mem_cons.not.mp h)
    refine (ih hrest _).trans ?_
    dsimp only
    split_ifs
    · rfl
    · exact (Table.lookup_insert_eq _ _ _ _).trans (if_neg hne)

theorem lookup_propagateLabels {ls : List (String × String)} (h : (ls.map Prod.fst).Nodup)
    (labels : Table String String) {l : String × String} (hl : l ∈ ls) :
    ((propagateLabels labels ls).lookup l.1).getD "" = l.2 := by
  induction ls generalizing labels with
  | nil => cases hl
  | cons l' ls ih =>
    obtain ⟨hnew, hrest⟩ := List.nodup_cons.mp h
    rcases List.mem_cons.mp hl with rfl | hl
    · refine (congrArg (Option.getD · "") (lookup_propagateLabels_of_not_mem hnew _)).trans ?_
      dsimp only
      split_ifs with hsame
      · exact hsame
      · rw [AList.lookup_insert]
        rfl
    · exact ih hrest _ hl

theorem nodup_labelsToPropagate (owner : Owner) :
    ((labelsToPropagate owner).map Prod.fst).Nodup := by
  unfold labelsToPropagate
  simp only [List.filterMap_cons, List.filterMap_nil]
  cases owner.labels.lookup "cni" <;> cases owner.labels.lookup "csi" <;>
    cases owner.labels.lookup "cloud-config" <;> simp

/-- Values that are not empty are propagated, an empty one reads as a label that is there. -/
theorem propagated {owner : Owner} (h : ∀ l ∈ labelsToPropagate owner, l.2 ≠ "")
    (labels : Table String String) {l : String × String} (hl : l ∈ labelsToPropagate owner) :
    (propagateLabels labels (labelsToPropagate owner)).lookup l.1 = some l.2 := by
  have hval := lookup_propagateLabels (nodup_labelsToPropagate owner) labels hl
  cases hlookup : (propagateLabels labels (labelsToPropagate owner)).lookup l.1 with
  | none =>
    rw [hlookup] at hval
    exact absurd hval.symm (h l hl)
  | some val =>
    rw [hlookup] at hval
    exact congrArg some hval

theorem Midway.setFleet (h : Midway codec t₀ c t s) (hundone : fleetDone s = false)
    (cond : Condition) (hlabelled : cond.status = .true_ → AutoImport t.owner → Labelled t) :
    Midway codec t₀ c t { s with status := { s.status with
      conditions := s.status.conditions.set "FleetIntegrationReady" cond } } := by
  have hcloud : cloudDone { s with status := { s.status with
      conditions := s.status.conditions.set "FleetIntegrationReady" cond } } = cloudDone s :=
    Conditions.isTrue_lookup ((Conditions.lookup_set _ _ _ _).trans (if_neg (by decide)))
  refine ⟨h.owner, h.management, h.stored, ⟨h.ahead.config,
    fun hc => hcloud.trans (h.ahead.cloud hc), fun hc => ?_⟩,
    ⟨fun hdone => h.current.cloud (hcloud.symm.trans hdone), fun hdone => ?_⟩⟩
  · exact absurd (h.ahead.fleet hc) (by simp [hundone])
  · obtain ⟨cond', hlookup, hstatus⟩ := (Conditions.isTrue_iff _ _).mp hdone
    obtain rfl := Option.some.inj
      (((Conditions.lookup_set _ _ _ _).trans (if_pos rfl)).symm.trans hlookup)
    exact hlabelled hstatus

theorem Midway.updateFleetCluster {name : String} {labels : Versioned (Table String String)}
    {x : Except ApiError Unit} (h : Midway codec t₀ c t s) (hundone : fleetDone s = false)
    (hx : Responds k t (.updateFleetCluster name labels) x t') : Midway codec t₀ c t' s := by
  obtain ⟨hclusters, hconfigMaps, -⟩ := hx.updateFleetCluster
  have howner := hx.owner
  have hmanagement := hx.management
  refine ⟨howner.trans h.owner, hmanagement.trans h.management, hclusters ▸ h.stored, h.ahead,
    ⟨fun hdone hcfg => ?_, fun hdone => ?_⟩⟩
  · have hold := h.current.cloud hdone hcfg
    unfold Configured
    rw [hconfigMaps]
    exact hold
  · exact absurd hdone (by simp [hundone])

/-- The labels to propagate all have a value, if the owner asks for them. -/
def Propagates (owner : Owner) : Prop :=
  AutoImport owner → ∀ l ∈ labelsToPropagate owner, l.2 ≠ ""

theorem midway_propagateToFleetCluster {mgmtClusterName : String} (h : Midway codec t₀ c t s)
    (hundone : fleetDone s = false) (hlabels : Propagates t₀.owner)
    (howner : sc.cluster = t₀.owner) (hmanagement : t₀.management = some mgmtClusterName) :
    Leads (Responds k) t (propagateToFleetCluster sc mgmtClusterName) s
      fun t' _ s' => Midway codec t₀ c t' s' := by
  refine .request_bind fun listed t₁ hlisted => ?_
  have h₁ := h.request hlisted rfl
  cases listed with
  | error e => exact .modify (h₁.setFleet hundone _ nofun)
  | ok fleetClusters =>
    dsimp only
    split
    · exact .modify (h₁.setFleet hundone _ nofun)
    next name fleetCluster hfind =>
    obtain rfl : name = mgmtClusterName := of_decide_eq_true (List.find?_some hfind :)
    have hstored := hlisted.listFleetClusters (List.mem_of_find?_eq_some hfind)
    split_ifs with hsame
    · -- The labels are there already.
      refine .modify (h₁.setFleet hundone _ fun _ hauto => ⟨name, ?_, fleetCluster, ?_, ?_⟩)
      · rw [h₁.management, hmanagement]
        rfl
      · rw [(Prod.mk.inj (Prod.mk.inj (hlisted.aside rfl)).2).2]
        exact hstored
      · intro l hl
        rw [h₁.owner] at hauto hl
        rw [← hsame, howner]
        exact propagated (hlabels hauto) _ hl
    · refine .request_bind fun updated t₂ hupdated => ?_
      have h₂ := h₁.updateFleetCluster hundone hupdated
      cases updated with
      | error e => exact .modify (h₂.setFleet hundone _ nofun)
      | ok u =>
        obtain ⟨after, hafter, hval⟩ := hupdated.updateFleetCluster.2.2 rfl
        refine .modify (h₂.setFleet hundone _ fun _ hauto => ⟨name, ?_, after, hafter, ?_⟩)
        · rw [h₂.management, hmanagement]
          rfl
        · intro l hl
          rw [h₂.owner] at hauto hl
          rw [hval, howner]
          exact propagated (hlabels hauto) _ hl

theorem midway_reconcileFleetIntegration (h : Midway codec t₀ c t s)
    (hlabels : Propagates t₀.owner) (howner : sc.cluster = t₀.owner) :
    Leads (Responds k) t (reconcileFleetIntegration sc) s
      fun t' _ s' => Midway codec t₀ c t' s' := by
  refine .get_bind ?_
  split_ifs with hdone hauto
  · exact .pure h
  · -- The condition becomes True because the owner does not ask for the labels.
    refine .modify (h.setFleet (by simpa [fleetDone] using hdone) _ fun _ himport => ?_)
    rw [h.owner, ← howner] at himport
    exact absurd himport hauto
  have hundone : fleetDone s = false := by simpa [fleetDone] using hdone
  refine .request_bind fun listed t₁ hlisted => ?_
  have h₁ := h.request hlisted rfl
  cases listed with
  | error e => exact .pure h₁
  | ok provClusters =>
    dsimp only
    split
    · exact .modify (h₁.setFleet hundone _ nofun)
    next mgmtClusterName hnamed =>
    have hmanagement : t₀.management = some mgmtClusterName := by
      have htruthful : managementOf t.owner provClusters = t.management :=
        hlisted.truthful _ rfl
      rw [← h.management, ← htruthful, h.owner, ← howner]
      exact hnamed
    refine .request_bind fun got t₂ hgot => ?_
    have h₂ := h₁.request hgot rfl
    cases got with
    | error e => exact .modify (h₂.setFleet hundone _ nofun)
    | ok fleetWorkspaceName =>
      dsimp only
      split_ifs
      · exact midway_propagateToFleetCluster h₂ hundone hlabels howner hmanagement
      · refine .request_bind fun patched t₃ hpatched => ?_
        have h₃ := h₂.request hpatched rfl
        cases patched with
        | error e => exact .modify (h₃.setFleet hundone _ nofun)
        | ok u => exact midway_propagateToFleetCluster h₃ hundone hlabels howner hmanagement

structure Patched (k : ObjectKey) (s : HarvesterCluster) (w w' : World) : Prop where
  configMaps : w'.configMaps = w.configMaps
  fleetClusters : w'.fleetClusters = w.fleetClusters
  stored : ∀ c, w'.clusters.lookup k = some c → Ahead c s

theorem Patched.setCluster {w : World} (h : Ahead c s) : Patched k s w (w.setCluster k c) := by
  refine ⟨rfl, rfl, fun c' hc' => ?_⟩
  obtain rfl := Option.some.inj ((AList.lookup_insert _).symm.trans hc')
  exact h

theorem isTrue_merge {before latest m : Conditions} {type : String}
    (h : Conditions.merge before s.status.conditions latest = some m)
    (hlatest : latest.isTrue type = true → s.status.conditions.isTrue type = true)
    (hm : m.isTrue type = true) : s.status.conditions.isTrue type = true := by
  have hlookup := Conditions.lookup_merge h type
  -- What the pass has not changed stays as stored, the rest is taken from memory.
  split_ifs at hlookup
  · exact hlatest ((Conditions.isTrue_lookup hlookup).symm.trans hm)
  · exact (Conditions.isTrue_lookup hlookup).symm.trans hm

theorem Responds.patched {r : Req} {x : Resp r} (h : Responds k t r x t') (hr : PatchTo s r)
    (hstored : ∀ c, t.world.clusters.lookup k = some c → Ahead c s) :
    Patched k s t.world t'.world := by
  have hfailed : Patched k s t.world t.world := ⟨rfl, rfl, hstored⟩
  obtain ⟨a, hexec, -⟩ := h
  obtain ⟨-, hw⟩ := Prod.mk.inj hexec
  rw [← hw]
  refine hr.exec_rule a (E := Patched k s t.world) hfailed (fun before c cs hc hcs => ?_)
    (fun c p hc => ?_) ⟨rfl, rfl, fun c' hc' => by simp at hc'⟩ fun c p hc => ?_
  · have hahead := hstored c hc
    exact .setCluster ⟨hahead.config, isTrue_merge hcs hahead.cloud, isTrue_merge hcs hahead.fleet⟩
  · have hahead := hstored c hc
    exact .setCluster ⟨hahead.config, hahead.cloud, hahead.fleet⟩
  · have hahead := hstored c hc
    exact .setCluster ⟨hahead.config, hahead.cloud, hahead.fleet⟩

/-- What the stored cluster says is done has been done. -/
def Sound {δ ρ : Type} (codec : ManifestCodec δ ρ) (k : ObjectKey) (t : Site) : Prop :=
  ∀ c, t.world.clusters.lookup k = some c → UpToDate codec t c

theorem sound_patchHelper {e : Option String} (h : Midway codec t₀ c t s)
    (hc : t₀.world.clusters.lookup k = some c)
    (he : Executes (Responds k) t (patchHelper c (mirrorReady s)) t' e) : Sound codec k t' := by
  have hahead : ∀ c', t.world.clusters.lookup k = some c' → Ahead c' (mirrorReady s) := by
    intro c' hc'
    obtain ⟨c₀, hc₀, hback⟩ := h.stored k c' hc'
    obtain rfl := Option.some.inj (hc.symm.trans hc₀)
    have hs := hback.trans h.ahead
    exact ⟨hs.config, hs.cloud, hs.fleet⟩
  obtain ⟨_, -, hcurrent, hstored⟩ := Prog.Conforms.executes
    (I := fun (_ : Unit) (u : Site) => UpToDate codec u (mirrorReady s) ∧
      ∀ c', u.world.clusters.lookup k = some c' → Ahead c' (mirrorReady s))
    (patches_patchHelper c (mirrorReady s)) (fun _ u r x u' hr hx hu => by
      have hpatched := hx.patched hr hu.2
      exact ⟨hu.1.of_ahead (.refl _) hx.owner hx.management hpatched.configMaps
        hpatched.fleetClusters, hpatched.stored⟩) he ⟨⟨h.current.cloud, h.current.fleet⟩, hahead⟩
  exact fun c' hc' => hcurrent.of_ahead (hstored c' hc') rfl rfl rfl rfl

theorem Midway.setCloud (h : Midway codec t₀ c t s) (hundone : cloudDone s = false)
    (cond : Condition) (hcfg : s.spec.updateCloudProviderConfig ≠ ⟨"", "", "", "", ""⟩ →
      Configured codec t.world s.spec.updateCloudProviderConfig) :
    Midway codec t₀ c t { s with status := { s.status with
      conditions := s.status.conditions.set "CloudProviderConfigReady" cond } } := by
  have hfleet : fleetDone { s with status := { s.status with
      conditions := s.status.conditions.set "CloudProviderConfigReady" cond } } = fleetDone s :=
    Conditions.isTrue_lookup ((Conditions.lookup_set _ _ _ _).trans (if_neg (by decide)))
  refine ⟨h.owner, h.management, h.stored, ⟨h.ahead.config, fun hc => ?_,
    fun hc => hfleet.trans (h.ahead.fleet hc)⟩, ⟨fun _ => hcfg, fun hdone =>
      h.current.fleet (hfleet.symm.trans hdone)⟩⟩
  -- The condition was not set when the cluster was read.
  exact absurd (h.ahead.cloud hc) (by simp [hundone])

/-- The cloud condition is not set yet, so the ConfigMap may be written. -/
theorem Midway.updateConfigMap {n : NamespacedName} {data : Versioned (Table String String)}
    {x : Except ApiError Unit} (h : Midway codec t₀ c t s) (hundone : cloudDone s = false)
    (hx : Responds k t (.updateConfigMap n data) x t') : Midway codec t₀ c t' s := by
  obtain ⟨hclusters, hfleet, -⟩ := hx.updateConfigMap
  have howner := hx.owner
  have hmanagement := hx.management
  refine ⟨howner.trans h.owner, hmanagement.trans h.management, hclusters ▸ h.stored, h.ahead,
    ⟨fun hdone => ?_, fun hdone hauto => ?_⟩⟩
  · exact absurd hdone (by simp [hundone])
  · rw [howner] at hauto
    have hold := h.current.fleet hdone hauto
    unfold Labelled
    rw [hfleet, hmanagement, howner]
    exact hold

variable [Inhabited ρ]

theorem midway_updateCloudProviderManifests
    (hext : ext.modifyYAMLString = codec.modifyYAMlString) (h : Midway codec t₀ c t s)
    (hundone : cloudDone s = false) :
    Leads (Responds k) t (updateCloudProviderManifests ext sc s.spec.updateCloudProviderConfig) s
      fun t' out s' => Midway codec t₀ c t' s' ∧ s' = s ∧ (out = some (.ok ()) →
        Configured codec t'.world s.spec.updateCloudProviderConfig) := by
  unfold updateCloudProviderManifests
  dsimp only
  split_ifs
  · exact .pure ⟨h, rfl, nofun⟩
  refine .request_bind fun got t₁ hgot => ?_
  have h₁ := h.request hgot rfl
  cases got with
  | error e => exact .pure ⟨h₁, rfl, nofun⟩
  | ok stored =>
    dsimp only
    split
    · exact .pure ⟨h₁, rfl, nofun⟩
    next manifest _ =>
    refine .get_bind (.request_bind fun kubeconfig t₂ hkubeconfig => ?_)
    have h₂ := h₁.request hkubeconfig rfl
    cases kubeconfig with
    | error e => exact .pure ⟨h₂, rfl, nofun⟩
    | ok b64 =>
      dsimp only
      split
      · exact .pure ⟨h₂, rfl, nofun⟩
      split
      · exact .pure ⟨h₂, rfl, nofun⟩
      next modified hmodified =>
      refine .request_bind fun updated t₃ hupdated => ?_
      have h₃ := h₂.updateConfigMap hundone hupdated
      cases updated with
      | error e => exact .pure ⟨h₃, rfl, nofun⟩
      | ok u =>
        refine .pure ⟨h₃, rfl, fun _ => ?_⟩
        obtain ⟨after, hafter, hval⟩ := hupdated.updateConfigMap.2.2 rfl
        rw [hext] at hmodified
        refine ⟨after, hafter, modified, ?_, contains_modifyYAMlString hmodified⟩
        rw [hval]
        exact AList.lookup_insert _

theorem midway_reconcileCloudProviderConfig (hext : ext.modifyYAMLString = codec.modifyYAMlString)
    (h : Midway codec t₀ c t s) :
    Leads (Responds k) t (reconcileCloudProviderConfig ext sc) s
      fun t' _ s' => Midway codec t₀ c t' s' := by
  refine .get_bind ?_
  split_ifs with hdone hempty
  · exact .pure h
  · -- The condition becomes True because nothing is asked for.
    exact .modify_bind (.pure (h.setCloud (by simpa [cloudDone] using hdone) _
      fun hcfg => absurd hempty hcfg))
  · have hundone : cloudDone s = false := by simpa [cloudDone] using hdone
    refine (midway_updateCloudProviderManifests hext h hundone).bind ?_ fun _ _ hnone => hnone.1
    rintro t₁ written s₁ ⟨h₁, rfl, hconfigured⟩
    cases written with
    | error e => exact .pure h₁
    | ok u => exact .modify_bind (.pure (h₁.setCloud hundone _ fun _ => hconfigured rfl))

theorem midway_reconcileLoadBalancer (hext : ext.modifyYAMLString = codec.modifyYAMlString)
    (h : Midway codec t₀ c t s) (hlabels : Propagates t₀.owner) (howner : sc.cluster = t₀.owner) :
    Leads (Responds k) t (reconcileLoadBalancer ext sc) s
      fun t' _ s' => Midway codec t₀ c t' s' := by
  refine (midway_reconcileCloudProviderConfig hext h).bind (fun t₁ config s₁ h₁ => ?_)
    fun _ _ hnone => hnone
  cases config with
  | error e => exact .pure h₁
  | ok u =>
    refine (aside_infrastructure _).leads_bind h₁ fun t₂ _ s₂ h₂ => .get_bind ?_
    split_ifs
    · exact aside_awaitLoadBalancer.leads h₂
    · refine (aside_infrastructure _).leads_bind h₂ fun t₃ _ s₃ h₃ => ?_
      exact (midway_reconcileFleetIntegration h₃ hlabels howner).bind (fun _ _ _ h₄ => .pure h₄)
        fun _ _ hnone => hnone
    · exact (aside_infrastructure _).leads_bind h₂ fun _ _ _ h₃ => .pure h₃

theorem midway_reconcileInfrastructure (hext : ext.modifyYAMLString = codec.modifyYAMlString)
    (h : Midway codec t₀ c t s) (hlabels : Propagates t₀.owner) (howner : sc.cluster = t₀.owner) :
    Leads (Responds k) t (reconcileInfrastructure ext sc) s
      fun t' _ s' => Midway codec t₀ c t' s' := by
  refine aside_reconcileVMIPPool.leads_bind h fun t₁ pool s₁ h₁ => ?_
  cases pool with
  | error e => exact .pure h₁
  | ok u =>
    refine aside_reconcileTargetNamespace.leads_bind h₁ fun t₂ _ s₂ h₂ => ?_
    refine aside_reconcileFailureDomains.leads_bind h₂ fun t₃ _ s₃ h₃ => ?_
    refine aside_getOwnedCPHarversterMachines.leads_bind h₃ fun t₄ owned s₄ h₄ => ?_
    rcases owned with e | _ | ⟨m, rest⟩
    · exact .pure h₄
    · exact aside_reconcilePlaceholder.leads h₄
    · exact midway_reconcileLoadBalancer hext h₄ hlabels howner

theorem midway_reconcileNormal (hext : ext.modifyYAMLString = codec.modifyYAMlString)
    (h : Midway codec t₀ c t s) (hlabels : Propagates t₀.owner) (howner : sc.cluster = t₀.owner) :
    Leads (Responds k) t (reconcileNormal ext sc) s fun t' _ s' => Midway codec t₀ c t' s' := by
  refine .get_bind ?_
  split_ifs
  · exact (aside_finalizers _).leads_bind h fun _ _ _ h₁ => .pure h₁
  · exact midway_reconcileInfrastructure hext h hlabels howner
  · exact (aside_finalizers (addFinalizer · clusterFinalizer)).leads_bind h fun _ _ _ h₁ => .pure h₁

theorem midway_reconcileBody (hext : ext.modifyYAMLString = codec.modifyYAMlString)
    (h : Midway codec t₀ c t s) (hlabels : Propagates t₀.owner) :
    Leads (Responds k) t (reconcileBody ext k) s fun t' _ s' => Midway codec t₀ c t' s' := by
  refine .request_bind fun owner t₁ howner => ?_
  have h₁ := h.request howner rfl
  rcases owner with e | _ | clusterOwner
  · exact .pure h₁
  · exact .pure h₁
  have howner : clusterOwner = t₀.owner := (howner.truthful _ rfl).trans h.owner
  refine .get_bind (.request_bind fun paused t₂ hpaused => ?_)
  have h₂ := h₁.pause hpaused
  split_ifs
  · exact (aside_recordPaused paused).leads_bind h₂ fun _ _ _ h₃ => .pure h₃
  refine aside_reconcileHarvesterConfig.leads_bind h₂ fun t₃ config s₃ h₃ => ?_
  cases config with
  | error e => exact .pure h₃
  | ok kubeconfig =>
    dsimp only
    split
    · exact .pure h₃
    refine .get_bind ?_
    split_ifs
    · exact aside_reconcileDelete.leads h₃
    · exact midway_reconcileNormal hext h₃ hlabels howner

/-- A pass of the cluster keeps its conditions up to date. -/
theorem sound_reconcile {out : Outcome} (hext : ext.modifyYAMLString = codec.modifyYAMlString)
    (h : Sound codec k t) (hlabels : Propagates t.owner)
    (he : Executes (Responds k) t (reconcile ext k) t' out) : Sound codec k t' := by
  have hread : ∀ {u : Site}, Unmoved t u → Sound codec k u := by
    intro u hu c hc
    obtain ⟨hclusters, hrest⟩ := Prod.mk.inj hu.steps
    obtain ⟨hconfigMaps, hfleet⟩ := Prod.mk.inj hrest
    exact (h c (hclusters ▸ hc)).of_ahead (.refl _) hu.owner hu.management hconfigMaps hfleet
  rcases executes_reconcile he with hsame | ⟨c, t₁, t₂, out, s, e, hsame, hc, hbody, hpatch⟩
  · exact hread hsame
  · have hmidway := midway_reconcileBody hext ⟨rfl, rfl, fun _ c' hc' => ⟨c', hc', .refl c'⟩,
      .refl c, hread hsame c hc⟩
      (hsame.owner ▸ hlabels) _ _ hbody
    exact sound_patchHelper hmidway hc hpatch

end Pass

end Caphv.Cluster
