import Caphv.OneShotSteps
import Caphv.PoolOwnership

namespace Caphv.Cluster

open Prog (Executes)

/-- What happens to the cluster: moves of users, of the machine controller and of Harvester, a new
version of the owner, an import, and passes. Nothing else happens while a pass runs. -/
inductive Move where
  | env (e : Env)
  | owner (o : Owner)
  | management (m : Option String)
  | pass

inductive Step (ext : Externals) (k : ObjectKey) : Site → Move → Site → Prop where
  | env (t : Site) (e : Env) : Step ext k t (.env e) { t with world := t.world.env e }
  | owner (t : Site) (o : Owner) : Step ext k t (.owner o) { t with owner := o }
  | management (t : Site) (m : Option String) :
    Step ext k t (.management m) { t with management := m }
  | pass {t t' : Site} {out : Outcome} (h : Executes (Responds k) t (reconcile ext k) t' out) :
    Step ext k t .pass t'

def rewriting {δ ρ : Type} [Inhabited ρ] (codec : ManifestCodec δ ρ) (ext : Externals) :
    Externals := { ext with modifyYAMLString := codec.modifyYAMlString }

/-- What is wanted does not change once its condition is True, nobody else sets one of the two
conditions or undoes what was written, and the labels to propagate have values. -/
def Unedited (k : ObjectKey) (t : Site) : Move → Prop
  | .env (.editCluster k' spec) => k' = k → ∀ c ∈ t.world.clusters.lookup k, cloudDone c = true →
      spec.updateCloudProviderConfig = c.spec.updateCloudProviderConfig ∨
      spec.updateCloudProviderConfig = ⟨"", "", "", "", ""⟩
  | .env (.patchClusterStatus k' cs) => k' = k → ∀ c ∈ t.world.clusters.lookup k,
      ∀ type ∈ ["CloudProviderConfigReady", "FleetIntegrationReady"],
        cs.isTrue type = true → c.status.conditions.isTrue type = true
  | .env (.putConfigMap n data) => ∀ c ∈ t.world.clusters.lookup k, cloudDone c = true →
      ∀ stored ∈ t.world.configMaps.lookup n,
        data.val.lookup c.spec.updateCloudProviderConfig.manifestsConfigMapKey =
          stored.val.lookup c.spec.updateCloudProviderConfig.manifestsConfigMapKey
  | .env (.putFleetCluster name labels) => ∀ c ∈ t.world.clusters.lookup k, fleetDone c = true →
      ∀ stored ∈ t.world.fleetClusters.lookup name, ∀ l ∈ labelsToPropagate t.owner,
        labels.val.lookup l.1 = stored.val.lookup l.1
  | .env _ => True
  | .owner o => ∀ c ∈ t.world.clusters.lookup k, fleetDone c = true → AutoImport o →
      AutoImport t.owner ∧ labelsToPropagate o = labelsToPropagate t.owner
  | .management m => ∀ c ∈ t.world.clusters.lookup k, fleetDone c = true → AutoImport t.owner →
      m = t.management
  | .pass => Propagates t.owner

def Undisturbed (ext : Externals) (k : ObjectKey) (t t' : Site) : Prop :=
  ∃ move, Unedited k t move ∧ Step ext k t move t'

section Runs

variable {δ ρ : Type} {codec : ManifestCodec δ ρ} {k : ObjectKey} {ext : Externals}
  {t t' t₀ : Site}

/-- Only the clusters have changed. -/
theorem Sound.clusters {w : World} (hconfigMaps : w.configMaps = t.world.configMaps)
    (hfleet : w.fleetClusters = t.world.fleetClusters)
    (hclusters : ∀ c, w.clusters.lookup k = some c → UpToDate codec t c) :
    Sound codec k { t with world := w } :=
  fun c hc => (hclusters c hc).of_ahead (.refl c) rfl rfl hconfigMaps hfleet

theorem Sound.insert (h : Sound codec k t) {k' : ObjectKey} {c : HarvesterCluster}
    (hc : k' = k → UpToDate codec t c) (c' : HarvesterCluster)
    (hc' : (t.world.clusters.insert k' c).lookup k = some c') : UpToDate codec t c' := by
  rw [Table.lookup_insert_eq] at hc'
  split_ifs at hc' with hk
  · obtain rfl := Option.some.inj hc'
    exact hc hk.symm
  · exact h c' hc'

theorem Sound.setCluster (h : Sound codec k t) {k' : ObjectKey} {c : HarvesterCluster}
    (hc : k' = k → UpToDate codec t c) :
    Sound codec k { t with world := t.world.setCluster k' c } :=
  .clusters rfl rfl (h.insert hc)

theorem Sound.same (h : Sound codec k t) {w : World} (hw : w.steps = t.world.steps) :
    Sound codec k { t with world := w } := by
  obtain ⟨hclusters, hrest⟩ := Prod.mk.inj hw
  obtain ⟨hconfigMaps, hfleet⟩ := Prod.mk.inj hrest
  refine .clusters hconfigMaps hfleet fun c hc => h c ?_
  rw [← hclusters]
  exact hc

theorem Sound.editCluster (h : Sound codec k t) {k' : ObjectKey} {spec : HarvesterClusterSpec}
    (he : Unedited k t (.env (.editCluster k' spec))) :
    Sound codec k { t with world := t.world.env (.editCluster k' spec) } := by
  unfold World.env
  dsimp only
  split
  · exact h
  next c hc =>
  split_ifs
  · refine h.setCluster fun hk => ?_
    subst hk
    refine ⟨fun hdone hcfg => ?_, (h c hc).fleet⟩
    rcases he rfl c hc hdone with hsame | hempty
    · have hold := (h c hc).cloud hdone
      rw [← hsame] at hold
      exact hold hcfg
    · exact absurd hempty hcfg
  · exact h

theorem Sound.deleteCluster (h : Sound codec k t) (k' : ObjectKey) :
    Sound codec k { t with world := t.world.env (.deleteCluster k') } := by
  unfold World.env
  dsimp only
  split
  · exact h
  next c hc =>
  split_ifs
  · refine .clusters rfl rfl fun c' hc' => ?_
    rw [Table.lookup_erase_eq] at hc'
    split_ifs at hc'
    exact h c' hc'
  · refine h.setCluster fun hk => ?_
    subst hk
    exact ⟨(h c hc).cloud, (h c hc).fleet⟩

theorem Sound.patchClusterStatus (h : Sound codec k t) {k' : ObjectKey} {cs : Conditions}
    (he : Unedited k t (.env (.patchClusterStatus k' cs))) :
    Sound codec k { t with world := t.world.env (.patchClusterStatus k' cs) } := by
  unfold World.env
  dsimp only
  split
  · exact h
  next c hc =>
  refine h.setCluster fun hk => ?_
  subst hk
  have htrue := he rfl c hc
  exact ⟨fun hdone => (h c hc).cloud (htrue _ (by simp) hdone),
    fun hdone => (h c hc).fleet (htrue _ (by simp) hdone)⟩

theorem Sound.putConfigMap (h : Sound codec k t) {n : NamespacedName}
    {data : Versioned (Table String String)} (he : Unedited k t (.env (.putConfigMap n data))) :
    Sound codec k { t with world := t.world.env (.putConfigMap n data) } := by
  intro c hc
  refine ⟨fun hdone hcfg => ?_, (h c hc).fleet⟩
  obtain ⟨stored, hstored, manifest, hmanifest, hcontains⟩ := (h c hc).cloud hdone hcfg
  by_cases hn : n = ⟨c.spec.updateCloudProviderConfig.manifestsConfigMapNamespace,
      c.spec.updateCloudProviderConfig.manifestsConfigMapName⟩
  · subst hn
    exact ⟨data, AList.lookup_insert _, manifest, (he c hc hdone stored hstored).trans hmanifest,
      hcontains⟩
  · exact ⟨stored, (AList.lookup_insert_ne (Ne.symm hn)).trans hstored, manifest, hmanifest,
      hcontains⟩

theorem Sound.putFleetCluster (h : Sound codec k t) {name : String}
    {labels : Versioned (Table String String)}
    (he : Unedited k t (.env (.putFleetCluster name labels))) :
    Sound codec k { t with world := t.world.env (.putFleetCluster name labels) } := by
  intro c hc
  refine ⟨(h c hc).cloud, fun hdone hauto => ?_⟩
  obtain ⟨name', hname', stored, hstored, hlabels⟩ := (h c hc).fleet hdone hauto
  by_cases hname : name = name'
  · subst hname
    exact ⟨name, hname', labels, AList.lookup_insert _,
      fun l hl => (he c hc hdone stored hstored l hl).trans (hlabels l hl)⟩
  · exact ⟨name', hname', stored, (AList.lookup_insert_ne (Ne.symm hname)).trans hstored,
      hlabels⟩

theorem Sound.env (h : Sound codec k t) {e : Env} (he : Unedited k t (.env e)) :
    Sound codec k { t with world := t.world.env e } := by
  cases e with
  | createCluster k' finalizers spec =>
    unfold World.env
    dsimp only
    split_ifs
    · exact h
    · exact .clusters rfl rfl (h.insert fun _ => ⟨nofun, nofun⟩)
  | editCluster k' spec => exact h.editCluster he
  | deleteCluster k' => exact h.deleteCluster k'
  | patchClusterStatus k' cs => exact h.patchClusterStatus he
  | putConfigMap n data => exact h.putConfigMap he
  | putFleetCluster name labels => exact h.putFleetCluster he
  -- The rest writes pools, machines, Services and load balancers.
  | createPool name pool =>
    refine h.same ?_
    unfold World.env
    dsimp only
    split_ifs <;> rfl
  | putPool name pool =>
    refine h.same ?_
    unfold World.env
    dsimp only
    split <;> rfl
  | setIngress n ingress =>
    refine h.same ?_
    unfold World.env
    dsimp only
    split <;> rfl
  | setAddress n address =>
    refine h.same ?_
    unfold World.env
    dsimp only
    split <;> rfl
  | _ => exact h.same rfl

variable [Inhabited ρ]

theorem Sound.step (h : Sound codec k t) (hs : Undisturbed (rewriting codec ext) k t t') :
    Sound codec k t' := by
  obtain ⟨move, hmove, hstep⟩ := hs
  cases hstep with
  | env e => exact h.env hmove
  | owner o =>
    intro c hc
    refine ⟨(h c hc).cloud, fun hdone hauto => ?_⟩
    obtain ⟨hbefore, hlabels⟩ := hmove c hc hdone hauto
    obtain ⟨name, hname, stored, hstored, hlookup⟩ := (h c hc).fleet hdone hbefore
    exact ⟨name, hname, stored, hstored, fun l hl => hlookup l (hlabels ▸ hl)⟩
  | management m =>
    intro c hc
    refine ⟨(h c hc).cloud, fun hdone hauto => ?_⟩
    obtain rfl := hmove c hc hdone hauto
    exact (h c hc).fleet hdone hauto
  | pass he => exact sound_reconcile rfl h hmove he

theorem Sound.run (h : Sound codec k t)
    (hrun : Relation.ReflTransGen (Undisturbed (rewriting codec ext) k) t t') :
    Sound codec k t' := by
  induction hrun with
  | refl => exact h
  | tail _ hstep ih => exact ih.step hstep

/-- In every run of a cluster in which what the two steps were done for stays as it is, a condition
that is True is true to what is wanted now. -/
theorem conditions_upToDate (h₀ : t₀.world.clusters.lookup k = none)
    (hrun : Relation.ReflTransGen (Undisturbed (rewriting codec ext) k) t₀ t)
    {c : HarvesterCluster} (hc : t.world.clusters.lookup k = some c) :
    (c.status.conditions.isTrue "CloudProviderConfigReady" = true →
      c.spec.updateCloudProviderConfig ≠ ⟨"", "", "", "", ""⟩ →
      Configured codec t.world c.spec.updateCloudProviderConfig) ∧
    (c.status.conditions.isTrue "FleetIntegrationReady" = true → AutoImport t.owner →
      Labelled t) := by
  have hsound : Sound codec k t₀ := fun c hc => nomatch h₀.symm.trans hc
  exact ⟨(hsound.run hrun c hc).cloud, (hsound.run hrun c hc).fleet⟩

end Runs

instance (owner : Owner) : Decidable (AutoImport owner) := inferInstanceAs (Decidable (_ = _))

instance (t : Site) : Decidable (Labelled t) :=
  inferInstanceAs (Decidable (∃ name ∈ t.management, _))

instance (owner : Owner) : Decidable (Propagates owner) := inferInstanceAs (Decidable (_ → _))

instance (k : ObjectKey) (t : Site) : DecidablePred (Unedited k t) := fun e => by
  unfold Unedited
  casesm* Move, Env <;> infer_instance

namespace Sample

def siteAnswers (t : Site) : (r : Req) → Answer r
  | .getOwnerCluster => (.ok (some t.owner) : Except ApiError (Option Owner))
  | .listProvisioningClusters _ =>
    let list := [(t.owner.key.name, t.management)]
    (if managementOf t.owner list = t.management then .ok list else .error .notFound :
      Except ApiError (List (String × Option String)))
  | .getCloudConfigB64 _ _ _ => (.ok "kubeconfig" : Except String String)
  | r => answers noFault r

def siteServer (k : ObjectKey) (t : Site) (r : Req) : Resp r × Site :=
  let out := exec k r (siteAnswers t r) t.world
  (out.1, { t with world := out.2 })

theorem responds_siteServer (k : ObjectKey) (t : Site) (r : Req) :
    Responds k t r (siteServer k t r).1 (siteServer k t r).2 := by
  refine ⟨siteAnswers t r, rfl, rfl, rfl, ?_⟩
  cases r with
  | getOwnerCluster => exact fun owner howner => (Option.some.inj (Except.ok.inj howner)).symm
  | listProvisioningClusters ns =>
    intro list hlist
    replace hlist : (if managementOf t.owner [(t.owner.key.name, t.management)] = t.management then
      .ok [(t.owner.key.name, t.management)] else .error .notFound :
        Except ApiError (List (String × Option String))) = .ok list := hlist
    split_ifs at hlist with hmanagement
    obtain rfl := Except.ok.inj hlist
    exact hmanagement
  | _ => exact trivial

def sitePass (ext : Externals) (k : ObjectKey) (t : Site) : Outcome × Site :=
  Prog.serve (siteServer k) t (reconcile ext k)

theorem executes_sitePass (ext : Externals) (k : ObjectKey) (t : Site) :
    Executes (Responds k) t (reconcile ext k) (sitePass ext k t).2 (sitePass ext k t).1 :=
  Prog.Complies.executes (D := fun _ _ => True) (fun t r _ => responds_siteServer k t r)
    (Prog.complies_of_forall (fun _ _ => trivial) _)

def move (ext : Externals) (k : ObjectKey) (t : Site) : Move → Site
  | .env e => { t with world := t.world.env e }
  | .owner o => { t with owner := o }
  | .management m => { t with management := m }
  | .pass => (sitePass ext k t).2

theorem step_move (ext : Externals) (k : ObjectKey) (t : Site) (m : Move) :
    Step ext k t m (move ext k t m) := by
  cases m with
  | env e => exact .env t e
  | owner o => exact .owner t o
  | management m => exact .management t m
  | pass => exact .pass (executes_sitePass ext k t)

def moves (ext : Externals) (k : ObjectKey) : Site → List Move → Site := List.foldl (move ext k)

theorem reaches_moves (ext : Externals) (k : ObjectKey) (t : Site) (ms : List Move) :
    Relation.ReflTransGen (fun t t' => ∃ m, Step ext k t m t') t (moves ext k t ms) := by
  induction ms generalizing t with
  | nil => exact .refl
  | cons m ms ih => exact .head ⟨m, step_move ext k t m⟩ (ih _)

def AllUnedited (ext : Externals) (k : ObjectKey) : Site → List Move → Prop
  | _, [] => True
  | t, m :: ms => Unedited k t m ∧ AllUnedited ext k (move ext k t m) ms

instance AllUnedited.decidable (ext : Externals) (k : ObjectKey) :
    (t : Site) → (ms : List Move) → Decidable (AllUnedited ext k t ms)
  | _, [] => isTrue trivial
  | t, m :: ms =>
    have : Decidable (AllUnedited ext k (move ext k t m) ms) := AllUnedited.decidable ext k _ ms
    inferInstanceAs (Decidable (_ ∧ _))

theorem AllUnedited.run {ext : Externals} {k : ObjectKey} {t : Site} {ms : List Move}
    (h : AllUnedited ext k t ms) :
    Relation.ReflTransGen (Undisturbed ext k) t (moves ext k t ms) := by
  induction ms generalizing t with
  | nil => exact .refl
  | cons m ms ih => exact .head ⟨m, h.1, step_move ext k t m⟩ (ih h.2)

def noCluster : Site := ⟨empty.world, ⟨keyX, ∅⟩, none⟩

def rewritingExt : Externals := rewriting ManifestSample.codec ext

def importedOwner (cni : String) : Owner := ⟨keyX, ((∅ : Table String String).insert
  "cluster-api.cattle.io/rancher-auto-import" "true").insert "cni" cni⟩

def cloudConfig : UpdateCloudProviderConfig :=
  ⟨"ns", "manifests", "addons", "creds", "cloud-config"⟩

def provisioned (spec : HarvesterClusterSpec) : List Move :=
  [.env (.createCluster keyX [clusterFinalizer] spec), .env (.putMachine keyXVM ⟨some "x", true⟩),
    .pass, .pass, .env (.setAddress ⟨"target", "ns-x-lb"⟩ "10.0.0.50"), .pass, .pass]

def writable : List Move :=
  [.management (some "c-1"), .env (.putFleetCluster "c-1" ⟨1, ∅⟩),
    .env (.putConfigMap ⟨"ns", "manifests"⟩
      ⟨1, (∅ : Table String String).insert "addons" "s\n---\nc"⟩)]

def wantedFirst (cni : String) : List Move :=
  writable ++ [.owner (importedOwner cni)] ++
    provisioned { spec with updateCloudProviderConfig := cloudConfig }

def afterFirst : Site := moves rewritingExt keyX noCluster (wantedFirst "calico")

def wantedLater : List Move :=
  writable ++ provisioned spec ++
    [.env (.editCluster keyX { spec with
      server := "https://harvester"
      controlPlaneEndpoint := ⟨"10.0.0.50", 6443⟩
      updateCloudProviderConfig := cloudConfig }),
    .owner (importedOwner "calico")]

def passAfter (ms : List Move) : Outcome × Site :=
  sitePass rewritingExt keyX (moves rewritingExt keyX noCluster ms)

theorem not_contains_addons :
    ¬ ManifestSample.codec.Contains "s\n---\nc" "creds" "kube-system" "cloud-config" := by
  have hread : ManifestSample.codec.getSerializedObjects "s\n---\nc" =
      .ok [.secret ManifestSample.credentials, .configMap] := by
    decide +kernel
  rintro ⟨docs, hdocs, doc, hdoc, secret, hsecret, -, hkey⟩
  obtain rfl := Except.ok.inj (hread.symm.trans hdocs)
  rcases List.mem_pair.mp hdoc with rfl | rfl
  · cases hsecret
    cases hkey
  · cases hsecret

end Sample

open Sample in
/-- What is wanted from the start is done. -/
theorem conditions_upToDate_sample :
    ∃ c, afterFirst.world.clusters.lookup keyX = some c ∧
      c.spec.updateCloudProviderConfig = cloudConfig ∧
      c.status.conditions.isTrue "CloudProviderConfigReady" = true ∧
      c.status.conditions.isTrue "FleetIntegrationReady" = true ∧
      Configured ManifestSample.codec afterFirst.world
        cloudConfig ∧
      Labelled afterFirst := by
  have hrun : AllUnedited rewritingExt keyX noCluster (wantedFirst "calico") ∧
      AutoImport afterFirst.owner ∧
      ∃ c ∈ afterFirst.world.clusters.lookup keyX,
        c.spec.updateCloudProviderConfig = cloudConfig ∧
        c.status.conditions.isTrue "CloudProviderConfigReady" = true ∧
        c.status.conditions.isTrue "FleetIntegrationReady" = true := by
    decide +kernel
  obtain ⟨hunedited, hauto, c, hc, hcfg, hcloud, hfleet⟩ := hrun
  have hreached : Relation.ReflTransGen (Undisturbed (rewriting ManifestSample.codec ext) keyX)
      noCluster afterFirst := hunedited.run
  obtain ⟨hconfigured, hlabelled⟩ := conditions_upToDate rfl hreached hc
  rw [hcfg] at hconfigured
  exact ⟨c, hc, hcfg, hcloud, hfleet, hconfigured hcloud (by decide), hlabelled hfleet hauto⟩

open Sample in
/-- What is wanted later is not done, although a pass returns without an error and both conditions
are True: the manifest lacks the credentials and the Fleet cluster the labels. A label without a
value is not propagated even if it is wanted from the start. -/
theorem conditions_outdated :
    (∃ t t' c,
      Relation.ReflTransGen (fun t t' => ∃ m, Step rewritingExt keyX t m t') noCluster t ∧
      Executes (Responds keyX) t (reconcile rewritingExt keyX) t' (.empty, none) ∧
      t'.world.clusters.lookup keyX = some c ∧
      c.spec.updateCloudProviderConfig = cloudConfig ∧ AutoImport t'.owner ∧
      c.status.conditions.isTrue "CloudProviderConfigReady" = true ∧
      c.status.conditions.isTrue "FleetIntegrationReady" = true ∧
      ¬ Configured ManifestSample.codec t'.world cloudConfig ∧ ¬ Labelled t') ∧
    ∃ t t' c,
      Relation.ReflTransGen (fun t t' => ∃ m, Step rewritingExt keyX t m t') noCluster t ∧
      Executes (Responds keyX) t (reconcile rewritingExt keyX) t' (.empty, none) ∧
      t'.world.clusters.lookup keyX = some c ∧ AutoImport t'.owner ∧
      c.status.conditions.isTrue "FleetIntegrationReady" = true ∧ ¬ Labelled t' := by
  have hlater : (passAfter wantedLater).1 = (.empty, none) ∧
      AutoImport (passAfter wantedLater).2.owner ∧
      (∃ c ∈ (passAfter wantedLater).2.world.clusters.lookup keyX,
        c.spec.updateCloudProviderConfig = cloudConfig ∧
        c.status.conditions.isTrue "CloudProviderConfigReady" = true ∧
        c.status.conditions.isTrue "FleetIntegrationReady" = true) ∧
      (∀ stored ∈ (passAfter wantedLater).2.world.configMaps.lookup ⟨"ns", "manifests"⟩,
        stored.val.lookup "addons" = some "s\n---\nc") ∧
      ¬ Labelled (passAfter wantedLater).2 := by
    decide +kernel
  have hfirst : (passAfter (wantedFirst "")).1 = (.empty, none) ∧
      AutoImport (passAfter (wantedFirst "")).2.owner ∧
      (∃ c ∈ (passAfter (wantedFirst "")).2.world.clusters.lookup keyX,
        c.status.conditions.isTrue "FleetIntegrationReady" = true) ∧
      ¬ Labelled (passAfter (wantedFirst "")).2 := by
    decide +kernel
  have hexec := fun ms => executes_sitePass rewritingExt keyX (moves rewritingExt keyX noCluster ms)
  constructor
  · obtain ⟨hout, hauto, ⟨c, hc, hcfg, hcloud, hfleet⟩, hmanifest, hlabels⟩ := hlater
    refine ⟨_, (passAfter wantedLater).2, c, reaches_moves _ _ _ wantedLater,
      hout ▸ hexec wantedLater, hc, hcfg, hauto, hcloud, hfleet, ?_, hlabels⟩
    rintro ⟨stored, hstored, manifest, hlookup, hcontains⟩
    obtain rfl := Option.some.inj ((hmanifest stored hstored).symm.trans hlookup)
    exact not_contains_addons hcontains
  · obtain ⟨hout, hauto, ⟨c, hc, hfleet⟩, hlabels⟩ := hfirst
    exact ⟨_, (passAfter (wantedFirst "")).2, c, reaches_moves _ _ _ (wantedFirst ""),
      hout ▸ hexec (wantedFirst ""), hc, hauto, hfleet, hlabels⟩

end Caphv.Cluster
