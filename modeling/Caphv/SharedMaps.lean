import Caphv.ClusterObservers
import Caphv.OneShotSteps
import Caphv.PoolOwnership
import Caphv.Optimistic

namespace Caphv.Cluster

/-- The version of a stored map stands for its entries. -/
def mapVersions : Versioning (Versioned (Table String String)) (Table String String) :=
  ⟨Versioned.resourceVersion, Versioned.val⟩

section Spares

variable {κ : Type} [DecidableEq κ] {P : κ → String → Prop} {n : κ}
  {t : Table κ (Versioned (Table String String))} {old read data : Versioned (Table String String)}

/-- No map goes away, a change comes with a new version, and only the entries that `P` names may
be other ones than before. -/
structure Spares (P : κ → String → Prop) (t t' : Table κ (Versioned (Table String String))) :
    Prop where
  advances : mapVersions.Advances t t'
  entries : ∀ n old, t.lookup n = some old → ∃ new, t'.lookup n = some new ∧
    ∀ x, ¬ P n x → new.val.lookup x = old.val.lookup x

theorem Spares.refl (t : Table κ (Versioned (Table String String))) : Spares P t t :=
  ⟨.refl t, fun _ old hs => ⟨old, hs, fun _ _ => rfl⟩⟩

/-- A map was read, changed in entries of `P`, and written back under the version that was read. -/
theorem Spares.update (hread : mapVersions.Read t n read) (hs : t.lookup n = some old)
    (hversion : old.resourceVersion = data.resourceVersion)
    (hsame : data.resourceVersion = read.resourceVersion)
    (hkeep : ∀ x, ¬ P n x → data.val.lookup x = read.val.lookup x) :
    Spares P t (t.insert n ⟨data.resourceVersion + 1, data.val⟩) := by
  have hval : old.val = read.val := hread.content_eq hs (hversion.trans hsame)
  refine ⟨.replace hs (fun m => Table.lookup_insert_eq _ _ _ _) (.of_lt ?_), fun m y hy => ?_⟩
  · show old.resourceVersion < data.resourceVersion + 1
    omega
  · by_cases hm : m = n
    · subst hm
      obtain rfl := Option.some.inj (hs.symm.trans hy)
      refine ⟨_, AList.lookup_insert _, fun x hx => ?_⟩
      rw [hval]
      exact hkeep x hx
    · exact ⟨y, (AList.lookup_insert_ne hm).trans hy, fun _ _ => rfl⟩

end Spares

def manifestsConfigMap (c : HarvesterCluster) : NamespacedName :=
  ⟨c.spec.updateCloudProviderConfig.manifestsConfigMapNamespace,
    c.spec.updateCloudProviderConfig.manifestsConfigMapName⟩

/-- The entry of a ConfigMap that a pass of the cluster writes. -/
def OwnManifest (read : Option HarvesterCluster) (n : NamespacedName) (x : String) : Prop :=
  ∃ c, read = some c ∧ n = manifestsConfigMap c ∧
    x = c.spec.updateCloudProviderConfig.manifestsConfigMapKey

def propagatedKeys : List String := ["cluster.x-k8s.io/cluster-name", "cni", "csi", "cloud-config"]

theorem mem_propagatedKeys {owner : Owner} {l : String × String} (h : l ∈ labelsToPropagate owner) :
    l.1 ∈ propagatedKeys := by
  unfold labelsToPropagate at h
  rcases List.mem_cons.mp h with rfl | h
  · exact List.mem_cons_self
  · obtain ⟨key, hkey, hl⟩ := List.mem_filterMap.mp h
    obtain ⟨val, -, rfl⟩ := Option.map_eq_some_iff.mp hl
    exact List.mem_cons_of_mem _ hkey

theorem lookup_propagated {x : String} (hx : x ∉ propagatedKeys) (labels : Table String String)
    (owner : Owner) :
    (propagateLabels labels (labelsToPropagate owner)).lookup x = labels.lookup x := by
  apply lookup_propagateLabels_of_not_mem
  intro hmem
  obtain ⟨l, hl, rfl⟩ := List.mem_map.mp hmem
  exact hx (mem_propagatedKeys hl)

/-- The cluster as it was read, the last ConfigMap that was read, and the Fleet clusters that were
listed. -/
structure Copies where
  cluster : Option HarvesterCluster
  configMap : Option (NamespacedName × Versioned (Table String String))
  fleetClusters : List (String × Versioned (Table String String))

namespace Copies

def fresh : Copies := ⟨none, none, []⟩

def next (e : Copies) : (r : Req) → Resp r → Copies
  | .getCluster, .ok c => { e with cluster := some c }
  | .getConfigMap n, .ok data => { e with configMap := some (n, data) }
  | .listFleetClusters, .ok list => { e with fleetClusters := list }
  | _, _ => e

theorem cluster_next (e : Copies) (r : Req) (x : Resp r) :
    (e.next r x).cluster = readCluster e.cluster r x := by
  cases r with
  | getCluster | getConfigMap | listFleetClusters => cases x <;> rfl
  | _ => rfl

end Copies

/-- A map is written as it was read, but for the entries of the cluster. -/
def CopyGuard (e : Copies) : Req → Prop
  | .updateConfigMap n data => ∃ c read text, e.cluster = some c ∧ e.configMap = some (n, read) ∧
      n = manifestsConfigMap c ∧ data = { read with
        val := read.val.insert c.spec.updateCloudProviderConfig.manifestsConfigMapKey text }
  | .updateFleetCluster n labels => ∃ read owner, (n, read) ∈ e.fleetClusters ∧
      labels = { read with val := propagateLabels read.val (labelsToPropagate owner) }
  | _ => True

def copyContract : Contract ObjectKey Req Copies := ⟨fun _ => CopyGuard, fun _ _ => True⟩

def copying (ext : Externals) : Controller ObjectKey Req Resp Answer World (View × Copies) Env :=
  (system ext).observe Copies.next .fresh

section Copying

variable {ext : Externals} {sc : Scope} {k : ObjectKey} {c s : HarvesterCluster} {e : Copies}

/-- The cluster `c` was read, and the one in memory names the same manifests. -/
structure Tracks (c : HarvesterCluster) (e : Copies) (s : HarvesterCluster) : Prop where
  cluster : e.cluster = some c
  config : s.spec.updateCloudProviderConfig = c.spec.updateCloudProviderConfig

theorem Tracks.next (h : Tracks c e s) (r : Req) (hr : r ≠ .getCluster) (x : Resp r) :
    Tracks c (e.next r x) s := by
  refine ⟨?_, h.config⟩
  rw [e.cluster_next, readCluster_of_ne hr, h.cluster]

abbrev Copying {α : Type} (c : HarvesterCluster) (b : Pass α) : Prop :=
  Body.Maintains CopyGuard Copies.next (Tracks c) b

theorem copying_call {r : Req} (hget : r ≠ .getCluster) (hg : ∀ e, CopyGuard e r) :
    Copying c (call r) := .request fun e _ h => ⟨hg e, h.next r hget⟩

theorem copying_modifyStatus (f : HarvesterClusterStatus → HarvesterClusterStatus) :
    Copying c (modifyStatus f) := .modify fun _ _ h => ⟨h.cluster, h.config⟩

theorem copying_modifySpec {f : HarvesterClusterSpec → HarvesterClusterSpec}
    (hf : ∀ spec, (f spec).updateCloudProviderConfig = spec.updateCloudProviderConfig) :
    Copying c (modifySpec f) := .modify fun _ s h => ⟨h.cluster, (hf s.spec).trans h.config⟩

theorem copying_finalizers (f : List String → List String) :
    Copying c (Body.modify fun s => { s with finalizers := f s.finalizers }) :=
  .modify fun _ _ h => ⟨h.cluster, h.config⟩

theorem copying_indifferent : Indifferent CopyGuard Copies.next (Tracks c) where
  call {r} hr := by
    cases r with
    | getCluster => cases hr
    | updateConfigMap n data => cases hr
    | updateFleetCluster n labels => cases hr
    | _ => exact copying_call nofun fun _ => trivial
  report _ _ := copying_modifyStatus _
  server _ := copying_modifySpec fun _ => rfl
  failureDomains _ := copying_modifyStatus _

theorem copying_updateCloudProviderManifests (h : Tracks c e s) :
    Body.Conforms CopyGuard Copies.next e
      (updateCloudProviderManifests ext sc s.spec.updateCloudProviderConfig) s
      fun e' _ s' => Tracks c e' s' := by
  rw [h.config]
  unfold updateCloudProviderManifests
  dsimp only
  split_ifs
  · exact h
  refine .request_bind trivial fun got => ?_
  have h₁ := h.next (.getConfigMap (manifestsConfigMap c)) nofun got
  cases got with
  | error err => exact h₁
  | ok stored =>
    dsimp only
    split
    · exact h₁
    refine .get_bind (.request_bind trivial fun kubeconfig => ?_)
    have h₂ := h₁.next (.getCloudConfigB64 sc.cluster.key.name s.spec.targetNamespace
      s.spec.server) nofun kubeconfig
    cases kubeconfig with
    | error err => exact h₂
    | ok b64 =>
      dsimp only
      split
      · exact h₂
      split
      · exact h₂
      · rename_i modified _
        -- The ConfigMap is the one that was read: the call in between records nothing.
        refine .request_bind ⟨c, stored, modified, h₂.cluster, rfl, rfl, rfl⟩ fun updated => ?_
        cases updated <;> exact ⟨h₂.cluster, h₂.config⟩

theorem copying_reconcileCloudProviderConfig :
    Copying c (reconcileCloudProviderConfig ext sc) := by
  intro e s h
  have hready : Copying c cloudProviderReady := .bind (copying_modifyStatus _) fun _ => .pure _
  unfold reconcileCloudProviderConfig
  refine .get_bind ?_
  split_ifs
  · exact h
  · exact hready e s h
  · refine (copying_updateCloudProviderManifests h).bind ?_ fun _ _ h' => h'
    rintro e₁ (err | u) s₁ h₁
    · exact h₁
    · exact hready e₁ s₁ h₁

theorem copying_setCondition (type : String) (cond : Condition) :
    Copying c (setCondition type cond) := copying_modifyStatus _

theorem copying_fleetReady (cond : Condition) : Copying c (fleetReady cond) :=
  copying_setCondition _ _

theorem copying_propagateToFleetCluster (name : String) :
    Copying c (propagateToFleetCluster sc name) := by
  intro e s h
  unfold propagateToFleetCluster
  refine .request_bind trivial fun listed => ?_
  have h₁ := h.next .listFleetClusters nofun listed
  cases listed with
  | error err => exact copying_fleetReady _ _ s h₁
  | ok list =>
    dsimp only
    split
    · exact copying_fleetReady _ _ s h₁
    · rename_i found fleetCluster hfound
      split_ifs
      · exact copying_fleetReady _ _ s h₁
      · refine .request_bind ⟨fleetCluster, sc.cluster, List.mem_of_find?_eq_some hfound, rfl⟩
          fun updated => ?_
        have h₂ := h₁.next (.updateFleetCluster found { fleetCluster with
          val := propagateLabels fleetCluster.val (labelsToPropagate sc.cluster) }) nofun updated
        cases updated <;> exact copying_fleetReady _ _ s h₂

theorem copying_reconcileFleetIntegration : Copying c (reconcileFleetIntegration sc) := by
  have hi : Indifferent CopyGuard Copies.next (Tracks c) := copying_indifferent
  unfold reconcileFleetIntegration
  refine .bind .get fun s => ?_
  split_ifs
  · exact .pure _
  · exact copying_fleetReady _
  refine .bind (hi.call rfl) fun listed => ?_
  cases listed with
  | error err => exact .pure _
  | ok provClusters =>
    dsimp only
    split
    · exact copying_fleetReady _
    refine .bind (hi.call rfl) fun got => ?_
    cases got with
    | error err => exact copying_fleetReady _
    | ok fleetWorkspaceName =>
      dsimp only
      split_ifs
      · exact copying_propagateToFleetCluster _
      · refine .bind (hi.call rfl) fun patched => ?_
        cases patched with
        | error err => exact copying_fleetReady _
        | ok u => exact copying_propagateToFleetCluster _

theorem copying_reconcileInfrastructure : Copying c (reconcileInfrastructure ext sc) := by
  have hi : Indifferent CopyGuard Copies.next (Tracks c) := copying_indifferent
  have href : Copying c (setVMPoolRef sc.key.vmPoolName) := copying_modifySpec fun _ => rfl
  have hready : ∀ ready, Copying c (setReady ready) := fun _ => copying_modifyStatus _
  have hendpoint : ∀ host, Copying c (setControlPlaneEndpoint host) :=
    fun _ => copying_modifySpec fun _ => rfl
  have hpool : ∀ n spec, Copying c (call (.createPool n spec)) :=
    fun _ _ => copying_call nofun fun _ => trivial
  refine maintains_reconcileInfrastructure hi
    (maintains_reconcileVMIPPool hi href fun p =>
      maintains_createVMIPPool hi (hpool _) href (fun _ => copying_modifyStatus _) p)
    (maintains_reconcilePlaceholder hi (fun name => maintains_getIPFromIPPool hi
      (maintains_createIPPoolIfNotExists hi (hpool _) (fun _ => copying_modifyStatus _)
        (hready false))
      (fun _ => copying_modifySpec fun _ => rfl)
      (fun _ _ => copying_call nofun fun _ => trivial) name) hendpoint (hready true)) ?_
  exact maintains_reconcileLoadBalancer hi copying_reconcileCloudProviderConfig
    (maintains_awaitLoadBalancer hi hendpoint (hready true) fun _ => copying_modifyStatus _)
    copying_reconcileFleetIntegration

theorem copying_reconcileDelete : Copying c (reconcileDelete sc) := by
  have hpool : ∀ n, Copying c (call (.deletePool n)) :=
    fun _ => copying_call nofun fun _ => trivial
  exact maintains_reconcileDelete copying_indifferent
    (fun _ => copying_call nofun fun _ => trivial) hpool (copying_modifyStatus _)
    (maintains_deleteVMIPPool hpool (copying_modifyStatus _) copying_finalizers)

/-- The passes keep to both contracts. -/
theorem keeps_copies (ext : Externals) : (copying ext).Keeps (contract.both copyContract) := by
  refine keeps_observed (J := Tracks) (fun _ _ _ => ⟨fun _ => trivial, fun _ => trivial,
    fun _ => trivial⟩) (fun _ => trivial) (fun _ => ⟨rfl, rfl⟩) fun k c => ?_
  exact maintains_reconcileBody copying_indifferent
    (fun _ _ => copying_call nofun fun _ => trivial) (copying_modifyStatus _)
    (fun _ => maintains_reconcileNormal copying_reconcileInfrastructure copying_finalizers)
    fun _ => copying_reconcileDelete

end Copying

section Requests

variable {k : ObjectKey} {w : World} {e : Copies}

def Req.leavesMaps : Req → Bool
  | .updateConfigMap _ _ => false
  | .updateFleetCluster _ _ => false
  | _ => true

theorem maps_write {α : Type} {f : Fault} {out : Except ApiError (α × World)}
    (h : ∀ a w', out = .ok (a, w') →
      w'.configMaps = w.configMaps ∧ w'.fleetClusters = w.fleetClusters) :
    (f.write w out).2.configMaps = w.configMaps ∧
      (f.write w out).2.fleetClusters = w.fleetClusters :=
  Fault.write_rule (E := fun _ w' => w'.configMaps = w.configMaps ∧
    w'.fleetClusters = w.fleetClusters) (fun _ a w' hout _ => h a w' hout) fun _ _ => ⟨rfl, rfl⟩

theorem exec_maps {r : Req} (hr : r.leavesMaps = true) (b : Answer r) :
    (exec k r b w).2.configMaps = w.configMaps ∧
      (exec k r b w).2.fleetClusters = w.fleetClusters := by
  by_cases haside : r.aside = true
  · obtain ⟨-, h⟩ := Prod.mk.inj (steps_exec (k := k) haside b w)
    exact Prod.mk.inj h
  · cases r with
    | updateConfigMap n data => cases hr
    | updateFleetCluster n labels => cases hr
    | patchConditions before after =>
      refine maps_write fun _ w' hout => ?_
      unfold World.patchConditions at hout
      split at hout
      · cases hout
      · split at hout
        · cases hout
        · cases hout
          exact ⟨rfl, rfl⟩
    | patchObject p =>
      refine maps_write fun _ w' hout => ?_
      unfold World.patchObject at hout
      dsimp only at hout
      split at hout
      · cases hout
      · split_ifs at hout
        · cases hout
          exact ⟨rfl, rfl⟩
        · cases hout
          exact ⟨rfl, rfl⟩
    | patchStatus p =>
      refine maps_write fun _ w' hout => ?_
      unfold World.patchStatus at hout
      split at hout
      · cases hout
      · cases hout
        exact ⟨rfl, rfl⟩
    | ensurePausedCondition o recorded =>
      exact ensurePaused_rule (E := fun w' => w'.configMaps = w.configMaps ∧
        w'.fleetClusters = w.fleetClusters) ⟨rfl, rfl⟩ fun _ _ => ⟨rfl, rfl⟩
    | _ => exact absurd rfl haside

/-- An update under the resource version that was read. -/
theorem spares_write {κ : Type} [DecidableEq κ] {P : κ → String → Prop} {f : Fault} {n : κ}
    (table : World → Table κ (Versioned (Table String String)))
    {put : Table κ (Versioned (Table String String)) → World}
    (hput : ∀ t, table (put t) = t) {read data : Versioned (Table String String)}
    (hread : mapVersions.Read (table w) n read)
    (hsame : data.resourceVersion = read.resourceVersion)
    (hkeep : ∀ x, ¬ P n x → data.val.lookup x = read.val.lookup x) :
    Spares P (table w) (table (f.write w
      ((updateVersioned (table w) n data).map fun t => ((), put t))).2) := by
  refine Fault.write_rule (E := fun _ w' => Spares P (table w) (table w'))
    (fun _ b w' hout _ => ?_) fun _ _ => .refl _
  unfold updateVersioned at hout
  split at hout
  · cases hout
  · split_ifs at hout with hversion
    · cases hout
      rw [hput]
      exact .update hread ‹_› hversion hsame hkeep
    · cases hout

theorem spares_configMaps {r : Req} (b : Answer r) (hg : CopyGuard e r)
    (hread : ∀ n read, e.configMap = some (n, read) → mapVersions.Read w.configMaps n read) :
    Spares (OwnManifest e.cluster) w.configMaps (exec k r b w).2.configMaps := by
  by_cases hr : r.leavesMaps = true
  · rw [(exec_maps hr b).1]
    exact .refl _
  · cases r with
    | updateConfigMap n data =>
      obtain ⟨c, read, text, hc, hcopy, hn, rfl⟩ := hg
      refine spares_write World.configMaps (fun _ => rfl) (hread n read hcopy) rfl
        fun x hx => ?_
      refine AList.lookup_insert_ne fun heq => hx ⟨c, hc, hn, heq⟩
    | updateFleetCluster n labels =>
      have hsame : (exec k (.updateFleetCluster n labels) b w).2.configMaps = w.configMaps :=
        updateVersioned_rule (E := fun _ w' => w'.configMaps = w.configMaps) (fun _ => rfl)
          fun _ => rfl
      rw [hsame]
      exact .refl _
    | _ => exact absurd rfl hr

theorem spares_fleetClusters {r : Req} (b : Answer r) (hg : CopyGuard e r)
    (hread : ∀ n read, (n, read) ∈ e.fleetClusters → mapVersions.Read w.fleetClusters n read) :
    Spares (fun _ x => x ∈ propagatedKeys) w.fleetClusters (exec k r b w).2.fleetClusters := by
  by_cases hr : r.leavesMaps = true
  · rw [(exec_maps hr b).2]
    exact .refl _
  · cases r with
    | updateFleetCluster n labels =>
      obtain ⟨read, owner, hmem, rfl⟩ := hg
      exact spares_write World.fleetClusters (fun _ => rfl) (hread n read hmem) rfl
        fun x hx => lookup_propagated hx _ _
    | updateConfigMap n data =>
      have hsame : (exec k (.updateConfigMap n data) b w).2.fleetClusters = w.fleetClusters :=
        updateVersioned_rule (E := fun _ w' => w'.fleetClusters = w.fleetClusters)
          (fun _ => rfl) fun _ => rfl
      rw [hsame]
      exact .refl _
    | _ => exact absurd rfl hr

end Requests

/-- Whoever else writes a map gives it a new version. -/
def MapsGrow (w : World) : Env → Prop
  | .putConfigMap n data =>
    ∀ old ∈ w.configMaps.lookup n, old.resourceVersion < data.resourceVersion
  | .putFleetCluster n labels =>
    ∀ old ∈ w.fleetClusters.lookup n, old.resourceVersion < labels.resourceVersion
  | _ => True

instance (w : World) : DecidablePred (MapsGrow w) := fun e => by
  unfold MapsGrow
  casesm Env <;> infer_instance

def MapsVersioned (w : World) (_ : ObjectKey → View) : ClusterEvent → Prop
  | .issue _ _ _ => True
  | .env e => MapsGrow w e

instance (w : World) (v : ObjectKey → View) : DecidablePred (MapsVersioned w v) := fun e => by
  unfold MapsVersioned
  casesm ClusterEvent <;> infer_instance

theorem advances_insert {κ : Type} [DecidableEq κ] {t : Table κ (Versioned (Table String String))}
    {n : κ} {data : Versioned (Table String String)}
    (h : ∀ old ∈ t.lookup n, old.resourceVersion < data.resourceVersion) :
    mapVersions.Advances t (t.insert n data) := by
  have hlookup : ∀ m, (t.insert n data).lookup m = if m = n then some data else t.lookup m :=
    fun m => Table.lookup_insert_eq _ _ _ _
  cases hs : t.lookup n with
  | none => exact .create hs hlookup
  | some old => exact .replace hs hlookup (.of_lt (h old hs))

def Env.leavesMaps : Env → Bool
  | .putConfigMap _ _ => false
  | .putFleetCluster _ _ => false
  | _ => true

theorem env_maps (w : World) {e : Env} (he : e.leavesMaps = true) :
    (w.env e).configMaps = w.configMaps ∧ (w.env e).fleetClusters = w.fleetClusters := by
  cases e with
  | putConfigMap | putFleetCluster => cases he
  | erasePool | putMachine | eraseMachine => exact ⟨rfl, rfl⟩
  | createCluster | createPool =>
    unfold World.env
    dsimp only
    split_ifs <;> exact ⟨rfl, rfl⟩
  | editCluster | deleteCluster =>
    unfold World.env
    dsimp only
    split
    · exact ⟨rfl, rfl⟩
    · split_ifs <;> exact ⟨rfl, rfl⟩
  | patchClusterStatus | putPool | setIngress | setAddress =>
    unfold World.env
    dsimp only
    split <;> exact ⟨rfl, rfl⟩

theorem env_maps_advance {w : World} {e : Env} (h : MapsGrow w e) :
    mapVersions.Advances w.configMaps (w.env e).configMaps ∧
      mapVersions.Advances w.fleetClusters (w.env e).fleetClusters := by
  by_cases he : e.leavesMaps = true
  · rw [(env_maps w he).1, (env_maps w he).2]
    exact ⟨.refl _, .refl _⟩
  · cases e with
    | putConfigMap n data => exact ⟨advances_insert h, .refl _⟩
    | putFleetCluster n labels => exact ⟨.refl _, advances_insert h⟩
    | _ => exact absurd rfl he

/-- Every pass has read what is stored of the maps or was stored before, and both records of the
cluster agree. -/
structure CopiesRead (w : World) (v : ObjectKey → View × Copies) : Prop where
  configMap : ∀ k n read, (v k).2.configMap = some (n, read) →
    mapVersions.Read w.configMaps n read
  fleetClusters : ∀ k n read, (n, read) ∈ (v k).2.fleetClusters →
    mapVersions.Read w.fleetClusters n read
  cluster : ∀ k, (v k).2.cluster = (v k).1.cluster

section CopiesRead

variable {k : ObjectKey} {w w' : World} {v : ObjectKey → View × Copies} {r : Req}

theorem CopiesRead.advance (h : CopiesRead w v)
    (hc : mapVersions.Advances w.configMaps w'.configMaps)
    (hf : mapVersions.Advances w.fleetClusters w'.fleetClusters) : CopiesRead w' v :=
  ⟨fun k n read hread => (h.configMap k n read hread).advance hc,
    fun k n read hread => (h.fleetClusters k n read hread).advance hf, h.cluster⟩

/-- One view is replaced by one that has read no more than what is stored. -/
theorem CopiesRead.update (h : CopiesRead w v) {u : View × Copies}
    (hc : ∀ n read, u.2.configMap = some (n, read) → mapVersions.Read w.configMaps n read)
    (hf : ∀ n read, (n, read) ∈ u.2.fleetClusters → mapVersions.Read w.fleetClusters n read)
    (hcluster : u.2.cluster = u.1.cluster) : CopiesRead w (Function.update v k u) where
  configMap := forall_update (Q := fun _ (u : View × Copies) => ∀ n read,
    u.2.configMap = some (n, read) → mapVersions.Read w.configMaps n read) hc
    fun j _ => h.configMap j
  fleetClusters := forall_update (Q := fun _ (u : View × Copies) => ∀ n read,
    (n, read) ∈ u.2.fleetClusters → mapVersions.Read w.fleetClusters n read) hf
    fun j _ => h.fleetClusters j
  cluster := forall_update (Q := fun _ (u : View × Copies) => u.2.cluster = u.1.cluster) hcluster
    fun j _ => h.cluster j

/-- The ConfigMap of a view is the one from before, or was just read. -/
theorem copy_configMap_origin {e : Copies} {b : Answer r} {n : NamespacedName}
    {read : Versioned (Table String String)}
    (h : (e.next r (exec k r b w).1).configMap = some (n, read)) :
    e.configMap = some (n, read) ∨ w.configMaps.lookup n = some read := by
  cases r with
  | getCluster =>
    generalize (exec k .getCluster b w).1 = x at h
    cases x <;> exact Or.inl h
  | listFleetClusters =>
    generalize (exec k .listFleetClusters b w).1 = x at h
    cases x <;> exact Or.inl h
  | getConfigMap m =>
    have hreply : (exec k (.getConfigMap m) b w).1 =
      Fault.reply b (found (w.configMaps.lookup m)) := rfl
    rw [hreply] at h
    cases hx : Fault.reply b (found (w.configMaps.lookup m)) with
    | error err =>
      rw [hx] at h
      exact Or.inl h
    | ok data =>
      rw [hx] at h
      cases h
      exact Or.inr (found_eq_ok (Fault.reply_eq_ok hx))
  | _ => exact Or.inl h

/-- The Fleet clusters of a view are those from before, or were just listed. -/
theorem copy_fleetClusters_origin {e : Copies} {b : Answer r} {n : String}
    {read : Versioned (Table String String)}
    (h : (n, read) ∈ (e.next r (exec k r b w).1).fleetClusters) :
    (n, read) ∈ e.fleetClusters ∨ w.fleetClusters.lookup n = some read := by
  cases r with
  | getCluster =>
    generalize (exec k .getCluster b w).1 = x at h
    cases x <;> exact Or.inl h
  | getConfigMap m =>
    generalize (exec k (.getConfigMap m) b w).1 = x at h
    cases x <;> exact Or.inl h
  | listFleetClusters =>
    have hreply : (exec k .listFleetClusters b w).1 =
      Fault.reply b (.ok w.listFleetClusters) := rfl
    rw [hreply] at h
    cases hx : Fault.reply b (Except.ok w.listFleetClusters) with
    | error err =>
      rw [hx] at h
      exact Or.inl h
    | ok list =>
      rw [hx] at h
      obtain rfl := Except.ok.inj (Fault.reply_eq_ok hx)
      obtain ⟨entry, hentry, heq⟩ := List.mem_map.mp h
      obtain ⟨rfl, rfl⟩ := Prod.mk.inj heq
      exact Or.inr (AList.mem_lookup_iff.mpr hentry)
  | _ => exact Or.inl h

theorem copiesRead_preserves (ext : Externals) :
    (copying ext).Preserves (contract.both copyContract)
      (fun w v e => MapsVersioned w (Controller.firstView v) e) CopiesRead where
  start w v k _ h := by
    refine h.update (fun n read hread => ?_) (fun n read hread => ?_) rfl
    · cases hread
    · cases hread
  issue w v k r b hg _ h := by
    have hc := (spares_configMaps (k := k) b hg.2 (h.configMap k)).advances
    have hf := (spares_fleetClusters (k := k) b hg.2 (h.fleetClusters k)).advances
    refine (h.advance hc hf).update (fun n read hread => ?_) (fun n read hread => ?_)
      ((Copies.cluster_next _ r _).trans (View.readCluster_eq (h.cluster k) r _))
    · rcases copy_configMap_origin hread with hread | hs
      · exact (h.configMap k n read hread).advance hc
      · exact (Versioning.Read.of_lookup hs).advance hc
    · rcases copy_fleetClusters_origin hread with hread | hs
      · exact (h.fleetClusters k n read hread).advance hf
      · exact (Versioning.Read.of_lookup hs).advance hf
  env w v e hok h := h.advance (env_maps_advance hok).1 (env_maps_advance hok).2

end CopiesRead

/-- In every run in which others give a ConfigMap or a Fleet cluster a new version when they write
it, a request of a cluster leaves every entry of every ConfigMap as it is stored then, but for the
manifests that the cluster read by the pass names, and every label of every Fleet cluster, but for
the propagated ones: no pass takes back what others have written since it read the object. -/
theorem foreign_entries_kept (ext : Externals) (s : ClusterState) (hs : Starts s)
    (acts : List ClusterAction) (hok : (system ext).Admissible MapsVersioned s acts)
    (k : ObjectKey) (ans : ∀ r, Answer r) :
    let t := (system ext).run s acts
    let t' := (system ext).step t (.exec k ans)
    Spares (OwnManifest (t.view k).cluster) t.world.configMaps t'.world.configMaps ∧
      Spares (fun _ x => x ∈ propagatedKeys) t.world.fleetClusters t'.world.fleetClusters := by
  intro t t'
  have hstart : CopiesRead s.world fun j => (s.view j, .fresh) := by
    refine ⟨fun j n read hread => ?_, fun j n read hread => ?_, fun j => ?_⟩
    · cases hread
    · cases hread
    · show none = (s.view j).cluster
      rw [hs.unseen j]
      rfl
  have hdone : ∀ j, (contract.both copyContract).done j (s.view j, Copies.fresh) := by
    intro j
    refine ⟨?_, trivial⟩
    rw [hs.unseen j]
    exact nofun
  obtain ⟨v, hview, hread, hguard⟩ := (copiesRead_preserves ext).reaches (keeps_copies ext) hs.idle
    hdone hstart hok
  have hcluster : (t.view k).cluster = (v k).2.cluster := by
    rw [hread.cluster k]
    exact congrArg View.cluster (congrFun hview k).symm
  cases hk : t.pass k with
  | ret u =>
    have hsame : t' = t := by
      show (system ext).step t (.exec k ans) = t
      simp only [Controller.step, hk]
    rw [hsame]
    exact ⟨.refl _, .refl _⟩
  | call r f =>
    have hworld : t'.world = (exec k r (ans r) t.world).2 := by
      show ((system ext).step t (.exec k ans)).world = _
      simp only [Controller.step, hk]
      rfl
    have hrequest : t.request k = some r := by
      simp only [State.request, hk]
    have hg := (hguard k r hrequest).2
    rw [hworld, hcluster]
    exact ⟨spares_configMaps (ans r) hg (hread.configMap k),
      spares_fleetClusters (ans r) hg (hread.fleetClusters k)⟩

namespace Sample

def appendingExt : Externals :=
  { ext with modifyYAMLString := fun manifest _ _ _ bytes => .ok (manifest ++ bytes) }

def manifestsSpec : HarvesterClusterSpec := { spec with
  updateCloudProviderConfig := ⟨"ns", "manifests", "addon", "creds", "cloud-config"⟩ }

def manifests (version : ℕ) (note : String) : Versioned (Table String String) :=
  ⟨version, ((∅ : Table String String).insert "addon" "manifest;").insert "note" note⟩

def answersWithConfig : (r : Req) → Answer r
  | .getCloudConfigB64 _ _ _ => (.ok "token" : Except String String)
  | r => answers noFault r

def execs (n : ℕ) : List ClusterAction := List.replicate n (.exec keyX answersWithConfig)

/-- A pass has read the ConfigMap when a user changes another entry of it, and its update is
refused; the next pass is about to write. -/
def noteBetween : List ClusterAction :=
  .env (.createCluster keyX [clusterFinalizer] manifestsSpec) ::
    .env (.putMachine keyX ⟨some "x", true⟩) ::
      .env (.putConfigMap ⟨"ns", "manifests"⟩ (manifests 1 "old")) ::
        .start keyX :: execs 11 ++
          .env (.putConfigMap ⟨"ns", "manifests"⟩ (manifests 2 "new")) :: execs 9 ++
            .start keyX :: execs 11

end Sample

open Sample in
theorem foreign_entries_kept_sample :
    let t := (system appendingExt).run empty noteBetween
    let t' := (system appendingExt).step t (.exec keyX answersWithConfig)
    (t.world.configMaps.lookup ⟨"ns", "manifests"⟩).map (fun d => d.val.lookup "addon") =
        some (some "manifest;") ∧
      (t'.world.configMaps.lookup ⟨"ns", "manifests"⟩).map (fun d => d.val.lookup "addon") =
        some (some "manifest;token") ∧
      Spares (OwnManifest (t.view keyX).cluster) t.world.configMaps t'.world.configMaps ∧
      Spares (fun _ x => x ∈ propagatedKeys) t.world.fleetClusters t'.world.fleetClusters := by
  have hkept := foreign_entries_kept appendingExt empty starts_empty noteBetween
    (by decide +kernel) keyX answersWithConfig
  exact ⟨by decide +kernel, by decide +kernel, hkept⟩

end Caphv.Cluster
