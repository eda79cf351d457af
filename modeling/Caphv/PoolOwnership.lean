import Caphv.ClusterEffects

namespace Caphv.Cluster

section Creators

variable {k j : ObjectKey} {w w' : World} {v : ObjectKey → View} {u u' : View}

theorem StoredPool.creator_releaseByID (id : String) (p : StoredPool) :
    (p.releaseByID id).creator = p.creator := by
  unfold StoredPool.releaseByID
  split_ifs <;> rfl

/-- A pool keeps its creator; a new one has been created by the request. -/
theorem Effect.creator {r : Req} {x : Resp r} (he : Effect j w u r x w' u') {n : String}
    {p' : StoredPool} (hp' : w'.pools.lookup n = some p') :
    (∃ p, w.pools.lookup n = some p ∧ p.creator = p'.creator) ∨
      p'.creator = some j ∧ ∃ spec, r = .createPool n spec := by
  cases he with
  | elsewhere _ hpools _ =>
    rw [hpools] at hp'
    exact Or.inl ⟨p', hp', rfl⟩
  | @createPool m spec x c _ _ _ _ =>
    rw [note_pools, lookup_setPool] at hp'
    split_ifs at hp' with hn
    · obtain rfl := Option.some.inj hp'
      exact Or.inr ⟨rfl, spec, hn ▸ rfl⟩
    · exact Or.inl ⟨p', hp', rfl⟩
  | @updatePool m p x c old _ hs _ =>
    rw [lookup_setPool] at hp'
    split_ifs at hp' with hn
    · obtain rfl := Option.some.inj hp'
      exact Or.inl ⟨old, hn ▸ hs, rfl⟩
    · exact Or.inl ⟨p', hp', rfl⟩
  | @deletePool m x c _ _ _ =>
    rw [note_pools, Table.lookup_erase_eq] at hp'
    split_ifs at hp'
    exact Or.inl ⟨p', hp', rfl⟩
  | deleteLoadBalancer _ _ _ =>
    rw [Table.lookup_mapValues] at hp'
    obtain ⟨p, hp, rfl⟩ := Option.map_eq_some_iff.mp hp'
    exact Or.inl ⟨p, hp, (StoredPool.creator_releaseByID _ p).symm⟩
  | _ => exact Or.inl ⟨p', hp', rfl⟩

theorem EnvEffect.creator {e : Env} (he : EnvEffect w e w') {n : String} {p' : StoredPool}
    (hp' : w'.pools.lookup n = some p') :
    (∃ p, w.pools.lookup n = some p ∧ p.creator = p'.creator) ∨
      ∃ pool, e = .createPool n pool := by
  cases he with
  | elsewhere _ hpools _ =>
    rw [hpools] at hp'
    exact Or.inl ⟨p', hp', rfl⟩
  | @createPool m pool _ =>
    rw [lookup_setPool] at hp'
    split_ifs at hp' with hn
    · exact Or.inr ⟨pool, hn ▸ rfl⟩
    · exact Or.inl ⟨p', hp', rfl⟩
  | @putPool m pool old hs =>
    rw [lookup_setPool] at hp'
    split_ifs at hp' with hn
    · obtain rfl := Option.some.inj hp'
      exact Or.inl ⟨old, hn ▸ hs, rfl⟩
    · exact Or.inl ⟨p', hp', rfl⟩
  | erasePool =>
    rw [Table.lookup_erase_eq] at hp'
    split_ifs at hp'
    exact Or.inl ⟨p', hp', rfl⟩
  | _ => exact Or.inl ⟨p', hp', rfl⟩

/-- A pool that a request makes disappear is one that the deletion of the cluster may delete. -/
theorem Effect.removed {r : Req} {x : Resp r} (he : Effect k w u r x w' u') {n : String}
    {p : StoredPool} (hp : w.pools.lookup n = some p) (hgone : w'.pools.lookup n = none) :
    ∃ c, u.Deleting c ∧ MayDelete k c n ∧ n ≠ "" := by
  have hkept : ∀ {w' : World}, w'.pools = w.pools → w'.pools.lookup n = none → False := by
    intro w' hpools hgone
    rw [hpools, hp] at hgone
    cases hgone
  cases he with
  | elsewhere _ hpools _ => exact (hkept hpools hgone).elim
  | @createPool m spec x c _ _ _ _ =>
    rw [note_pools, lookup_setPool] at hgone
    split_ifs at hgone
    exact (hkept rfl hgone).elim
  | @updatePool m q x c old _ _ _ =>
    rw [lookup_setPool] at hgone
    split_ifs at hgone
    exact (hkept rfl hgone).elim
  | @deletePool m x c hphase hmay hnamed =>
    rw [note_pools, Table.lookup_erase_eq] at hgone
    split_ifs at hgone with hn
    · exact ⟨c, hphase, hn ▸ hmay, hn ▸ hnamed⟩
    · exact (hkept rfl hgone).elim
  | deleteLoadBalancer _ _ _ =>
    rw [Table.lookup_mapValues, hp] at hgone
    cases hgone
  | _ => exact (hkept rfl hgone).elim

end Creators

section Ownership

variable {ext : Externals} {k : ObjectKey} {w : World} {v : ObjectKey → View}

def GeneratedFor (k : ObjectKey) (n : String) : Prop := n = k.lbPoolName ∨ n = k.vmPoolName

instance (k : ObjectKey) (n : String) : Decidable (GeneratedFor k n) :=
  inferInstanceAs (Decidable (_ ∨ _))

/-- The references of a cluster to the pools on its record name generated pools, or nothing. -/
def FaithfulRefs (k : ObjectKey) (c : HarvesterCluster) : Prop :=
  (lbPoolOwned c.status.conditions = true → c.spec.loadBalancerConfig.ipPoolRef ≠ "" →
    GeneratedFor k c.spec.loadBalancerConfig.ipPoolRef) ∧
  (vmPoolOwned c.status.conditions = true → ∀ ref ∈ vmPoolRef c, ref ≠ "" → GeneratedFor k ref)

instance (k : ObjectKey) (c : HarvesterCluster) : Decidable (FaithfulRefs k c) :=
  inferInstanceAs (Decidable (_ ∧ _))

/-- Only cluster `k` creates pools under the names generated for it, and when its deletion reads
the cluster, no reference to a pool on its record has been pointed elsewhere. -/
def OwnNames (k : ObjectKey) (w : World) (_ : ObjectKey → View) : ClusterEvent → Prop
  | .issue j .getCluster _ =>
    j = k → ∀ c ∈ w.clusters.lookup k, c.deleting = true → FaithfulRefs k c
  | .issue j (.createPool n _) _ => j ≠ k → ¬ GeneratedFor k n
  | .env (.createPool n _) => ¬ GeneratedFor k n
  | _ => True

instance (k : ObjectKey) (w : World) (v : ObjectKey → View) :
    DecidablePred (OwnNames k w v) := fun e => by
  unfold OwnNames
  casesm* ClusterEvent, Req, Env <;> infer_instance

structure OwnInv (k : ObjectKey) (w : World) (v : ObjectKey → View) : Prop where
  creator : ∀ n p, w.pools.lookup n = some p → GeneratedFor k n → p.creator = some k
  refs : ∀ c, (v k).cluster = some c → c.deleting = true → FaithfulRefs k c

theorem ownInv_preserves (ext : Externals) (k : ObjectKey) :
    (system ext).Preserves contract (OwnNames k) (OwnInv k) := by
  refine preserves_of_effects ?_ ?_ ?_
  · intro w v j _ h
    refine ⟨h.creator, fun c => update_rule (Q := fun (u : View) => u.cluster = some c →
      c.deleting = true → FaithfulRefs k c) (fun _ => nofun) fun _ => h.refs c⟩
  · intro w w' v v' j r a he hok h
    refine ⟨fun n p' hp' hn => ?_, fun c => update_rule (Q := fun (u : View) =>
      u.cluster = some c → c.deleting = true → FaithfulRefs k c) ?_ fun _ => h.refs c⟩
    · rcases he.creator hp' with ⟨p, hp, hc⟩ | ⟨hc, spec, rfl⟩
      · rw [← hc]
        exact h.creator n p hp hn
      · rw [hc]
        by_cases hj : j = k
        · rw [hj]
        · exact absurd hn (hok hj)
    · rintro rfl hc hd
      rcases he.cluster_view hc with hc | ⟨rfl, hs⟩
      · exact h.refs c hc hd
      · exact hok rfl c hs hd
  · intro w w' v e he hok h
    refine ⟨fun n p' hp' hn => ?_, h.refs⟩
    rcases he.creator hp' with ⟨p, hp, hc⟩ | ⟨pool, rfl⟩
    · rw [← hc]
      exact h.creator n p hp hn
    · exact absurd hn hok

/-- With faithful references, what a deletion may delete has a generated name. -/
theorem MayDelete.generatedFor {c : HarvesterCluster} {n : String} (h : MayDelete k c n)
    (hrefs : FaithfulRefs k c) (hn : n ≠ "") : GeneratedFor k n := by
  cases h with
  | generated => exact Or.inl rfl
  | custom owned => exact hrefs.1 owned hn
  | vm owned href => exact hrefs.2 owned n href hn

/-- In every run in which nobody else creates pools under the names generated for cluster `k`
and its references stay with them, a pool that disappears in a step of `k` was created by `k`. -/
theorem deletes_own_pools (ext : Externals) (k : ObjectKey) (s : ClusterState) (hs : Starts s)
    (hstart : ∀ n p, s.world.pools.lookup n = some p → GeneratedFor k n → p.creator = some k)
    (acts : List ClusterAction) (hok : (system ext).Admissible (OwnNames k) s acts)
    (ans : ∀ r, Answer r) (n : String) (p : StoredPool)
    (hp : ((system ext).run s acts).world.pools.lookup n = some p)
    (hgone : ((system ext).step ((system ext).run s acts) (.exec k ans)).world.pools.lookup n =
      none) : p.creator = some k := by
  have hinv : OwnInv k s.world s.view := by
    refine ⟨hstart, fun c hc => ?_⟩
    rw [hs.unseen k] at hc
    cases hc
  obtain ⟨h, hconf⟩ := (ownInv_preserves ext k).run (keeps_contract ext) hs.conforms hinv hok
  rcases step_effect hconf k ans with hsame | ⟨r, x, v', he⟩
  · rw [hsame, hp] at hgone
    cases hgone
  · obtain ⟨c, hphase, hmay, hn⟩ := he.removed hp hgone
    exact h.creator n p hp (hmay.generatedFor (h.refs c hphase.cluster hphase.deleting) hn)

end Ownership

namespace Sample

def ext : Externals where
  allocator := ⟨RangeSample.nextIP, fun _ _ _ _ => .ok ⟨[10, 0, 0, 2], Or.inl rfl⟩,
    fun _ ip => ip.string⟩
  loadKubeconfig _ := .ok ⟨"context", (∅ : Table String String).insert "context" "harvester",
    (∅ : Table String String).insert "harvester" "https://harvester"⟩
  restConfigFromKubeConfig _ := .ok ()
  newKubeClient _ := .ok ()
  newHarvesterClient _ := .ok ()
  decodeBase64 text := .ok text
  modifyYAMLString manifest _ _ _ _ := .ok manifest
  contextText := ""

def keyX : ObjectKey := ⟨"ns", "x", by decide⟩

def keyXVM : ObjectKey := ⟨"ns", "x-vm", by decide⟩

def spec : HarvesterClusterSpec := { (default : HarvesterClusterSpec) with
  identitySecret := ⟨"ns", "identity"⟩
  loadBalancerConfig := ⟨.dhcp, "", ⟨"", "", "", "", ""⟩, []⟩
  targetNamespace := "target" }

def vmPoolSpec : HarvesterClusterSpec := { spec with
  vmNetworkConfig := some ⟨"", [], some ⟨"net", "10.0.0.0/24", "10.0.0.1", "10.0.0.2", "10.0.0.9"⟩,
    "10.0.0.1", "255.255.255.0", [], []⟩ }

def empty : ClusterState := ⟨⟨∅, ∅, ∅, ∅, ∅, ∅, ∅, []⟩, fun _ => .ret (), fun _ => .fresh⟩

theorem starts_empty : Starts empty := ⟨fun _ => rfl, fun _ => rfl⟩

def answers (fault : Req → Fault) : (r : Req) → Answer r
  | .getOwnerCluster => (.ok (some ⟨keyX, ∅⟩) : Except ApiError (Option Owner))
  | .ensurePausedCondition o recorded =>
    PausedAnswer.unpaused (fault (.ensurePausedCondition o recorded))
  | .getIdentitySecret _ => (.ok "kubeconfig" : Except ApiError String)
  | .getHarvesterDeployment => (.ok [("Available", true)] : Except ApiError (List (String × Bool)))
  | .getNamespace _ => (.ok () : Except ApiError Unit)
  | .createNamespace _ => (.ok () : Except ApiError Unit)
  | .listNodes => (.ok [] : Except ApiError (List Node))
  | .getVM _ => (.ok () : Except ApiError Unit)
  | .getCloudConfigB64 _ _ _ => (.ok "" : Except String String)
  | .listProvisioningClusters _ => (.ok [] : Except ApiError (List (String × Option String)))
  | .getManagementCluster _ => (.ok "fleet-default" : Except ApiError String)
  | .patchManagementCluster _ => (.ok () : Except ApiError Unit)
  | .getCluster => fault .getCluster
  | .patchConditions b a => fault (.patchConditions b a)
  | .patchObject p => fault (.patchObject p)
  | .patchStatus p => fault (.patchStatus p)
  | .getPool n => fault (.getPool n)
  | .createPool n p => fault (.createPool n p)
  | .updatePool n p => fault (.updatePool n p)
  | .deletePool n => fault (.deletePool n)
  | .listMachines n => fault (.listMachines n)
  | .getService n => fault (.getService n)
  | .createService n ip => fault (.createService n ip)
  | .updateService n svc => fault (.updateService n svc)
  | .deleteService n => fault (.deleteService n)
  | .getLoadBalancer n => fault (.getLoadBalancer n)
  | .createLoadBalancer n lb => fault (.createLoadBalancer n lb)
  | .deleteLoadBalancer n => fault (.deleteLoadBalancer n)
  | .getConfigMap n => fault (.getConfigMap n)
  | .updateConfigMap n data => fault (.updateConfigMap n data)
  | .listFleetClusters => fault .listFleetClusters
  | .updateFleetCluster n labels => fault (.updateFleetCluster n labels)

def noFault : Req → Fault := fun _ => .none

def calls (n : ℕ) (fault : Req → Fault) (k : ObjectKey) : List ClusterAction :=
  .start k :: List.replicate n (.exec k (answers fault))

def passWith : (Req → Fault) → ObjectKey → List ClusterAction := calls 20

def pass : ObjectKey → List ClusterAction := passWith noFault

/-- A new cluster, and the pass that records that it is not paused. -/
def created (k : ObjectKey) (finalizers : List String) (spec : HarvesterClusterSpec) :
    List ClusterAction :=
  .env (.createCluster k finalizers spec) :: pass k

def createAndDelete : List ClusterAction :=
  created keyX [clusterFinalizer] vmPoolSpec ++ pass keyX ++
    .env (.deleteCluster keyX) :: calls 8 noFault keyX

/-- Cluster `x-vm`, whose own pool would have the name of the pool that `x` has created, is
deleted. -/
def deleteNamesake : List ClusterAction :=
  created keyX [clusterFinalizer] vmPoolSpec ++ pass keyX ++
    created keyXVM [clusterFinalizer] spec ++ .env (.deleteCluster keyXVM) ::
      calls 7 noFault keyXVM

end Sample

open Sample in
theorem deletes_own_pools_sample :
    ∃ p, ((system ext).run empty createAndDelete).world.pools.lookup "ns-x-vm-ippool" = some p ∧
      p.creator = some keyX := by
  obtain ⟨p, hp⟩ : ∃ p, ((system ext).run empty createAndDelete).world.pools.lookup
      "ns-x-vm-ippool" = some p := Option.isSome_iff_exists.mp (by decide +kernel)
  exact ⟨p, hp, deletes_own_pools ext keyX empty starts_empty (fun _ _ h => nomatch h)
    createAndDelete (by decide +kernel) (answers noFault) "ns-x-vm-ippool" p hp
    (by decide +kernel)⟩

open Sample in
/-- The deletion of `x-vm` deletes the pool of the VMs of `x`. -/
theorem pool_of_other_cluster_deleted :
    let t := (system ext).run empty deleteNamesake
    let t' := (system ext).step t (.exec keyXVM (answers noFault))
    (t.world.pools.lookup "ns-x-vm-ippool").map StoredPool.creator = some (some keyX) ∧
      t'.world.pools.lookup "ns-x-vm-ippool" = none := by
  decide +kernel

end Caphv.Cluster
