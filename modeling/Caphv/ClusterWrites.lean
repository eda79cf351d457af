import Caphv.ClusterReadiness
import Caphv.ClusterResources
import Caphv.ResourceNames

namespace Caphv.Cluster

section Endpoint

variable {ext : Externals} {k j : ObjectKey} {t : String} {Q : APIEndpoint → Prop} {w w' : World}
  {e : Sight}

/-- The addresses that Harvester shows under a name: the first of the ingress of the Service, and
that of the load balancer. -/
def World.shows (w : World) (n : NamespacedName) : List String :=
  ((w.services.lookup n).elim [] fun svc => svc.val.ingress.head?.toList) ++
    ((w.loadBalancers.lookup n).elim [] fun lb => [lb.address])

/-- Users keep `t` as the target namespace of `k` and write endpoints with `Q` only. -/
def WritesEndpoint (k : ObjectKey) (t : String) (Q : APIEndpoint → Prop) : ClusterEvent → Prop
  | .env (.createCluster j _ spec) => j = k →
      spec.targetNamespace = t ∧ Q spec.controlPlaneEndpoint
  | .env (.editCluster j spec) => j = k → spec.targetNamespace = t ∧ Q spec.controlPlaneEndpoint
  | _ => True

instance [DecidablePred Q] (k : ObjectKey) (t : String) :
    DecidablePred (WritesEndpoint k t Q) := fun e => by
  unfold WritesEndpoint
  casesm* ClusterEvent, Env <;> infer_instance

/-- Users and Harvester offer endpoints with `Q` only. -/
def Offers (k : ObjectKey) (t : String) (Q : APIEndpoint → Prop) (w : World)
    (_ : ObjectKey → View) (ev : ClusterEvent) : Prop :=
  (∀ ip ∈ w.shows ⟨t, k.lbName⟩, ip ≠ "" → Q ⟨ip, 6443⟩) ∧ WritesEndpoint k t Q ev

instance [DecidablePred Q] (k : ObjectKey) (t : String) (w : World) (v : ObjectKey → View) :
    DecidablePred (Offers k t Q w v) := fun _ => inferInstanceAs (Decidable (_ ∧ _))

structure EndpointInv (k : ObjectKey) (t : String) (Q : APIEndpoint → Prop) (w : World)
    (e : Sight) : Prop where
  stored : ∀ c, w.clusters.lookup k = some c →
    c.spec.targetNamespace = t ∧ Q c.spec.controlPlaneEndpoint
  read : ∀ c, e.cluster = some c → c.spec.targetNamespace = t
  addresses : ∀ ip, (⟨t, k.lbName⟩, ip) ∈ e.addresses → ip ≠ "" → Q ⟨ip, 6443⟩

theorem endpoint_apply (before after c : HarvesterCluster) :
    ((ObjectPatch.between before after).apply c).spec.controlPlaneEndpoint =
      if before.spec.controlPlaneEndpoint = after.spec.controlPlaneEndpoint then
        c.spec.controlPlaneEndpoint
      else after.spec.controlPlaneEndpoint := by
  simp only [ObjectPatch.apply, ObjectPatch.between, changedTo]
  split_ifs <;> rfl

/-- An address that the pass comes to know is shown when it asks. -/
theorem Sight.addresses_next {r : Req} {a : Answer r} {n : NamespacedName} {ip : String}
    (h : (n, ip) ∈ (e.next r (exec k r a w).1).addresses) :
    (n, ip) ∈ e.addresses ∨ ip ∈ w.shows n := by
  cases r with
  | getCluster =>
    revert h
    cases (exec k .getCluster a w).1 <;> exact Or.inl
  | getService m =>
    revert h
    show (n, ip) ∈ (e.next (.getService m) (Fault.reply a (found (w.services.lookup m)))).addresses
      → _
    cases hx : Fault.reply a (found (w.services.lookup m)) with
    | error err => exact Or.inl
    | ok svc =>
      have hs := found_eq_ok (Fault.reply_eq_ok hx)
      intro h
      rcases List.mem_append.mp h with h | h
      · obtain ⟨ip', hip', heq⟩ := List.mem_map.mp h
        obtain ⟨rfl, rfl⟩ := Prod.mk.inj heq
        refine Or.inr (List.mem_append_left _ ?_)
        rw [hs]
        exact hip'
      · exact Or.inl h
  | getLoadBalancer m =>
    revert h
    show (n, ip) ∈ (e.next (.getLoadBalancer m)
      (Fault.reply a (found (w.loadBalancers.lookup m)))).addresses → _
    cases hx : Fault.reply a (found (w.loadBalancers.lookup m)) with
    | error err => exact Or.inl
    | ok lb =>
      have hs := found_eq_ok (Fault.reply_eq_ok hx)
      intro h
      rcases List.mem_cons.mp h with h | h
      · obtain ⟨rfl, rfl⟩ := Prod.mk.inj h
        refine Or.inr (List.mem_append_right _ ?_)
        rw [hs]
        exact List.mem_singleton_self _
      · exact Or.inl h
  | deleteLoadBalancer m => exact Or.inl (e.addresses_remove _ _ ▸ h)
  | deleteService m => exact Or.inl (e.addresses_remove _ _ ▸ h)
  | deletePool m => exact Or.inl (e.addresses_remove _ _ ▸ h)
  | _ => exact Or.inl h

theorem EndpointInv.own {v : View} {r : Req} {a : Answer r} (h : EndpointInv k t Q w e)
    (hg : Guard k v r) (hs : SightGuard k e r)
    (hshown : ∀ ip ∈ w.shows ⟨t, k.lbName⟩, ip ≠ "" → Q ⟨ip, 6443⟩) :
    EndpointInv k t Q (exec k r a w).2 (e.next r (exec k r a w).1) := by
  refine ⟨fun c' hc' => ?_, fun c hc => ?_, fun ip hip hne => ?_⟩
  · obtain ⟨c₀, hc₀, hstatus | ⟨_, p, rfl, rfl⟩⟩ := (exec_effect r a hg).cluster_origin hc'
    · rw [hstatus]
      exact h.stored c₀ hc₀
    · obtain ⟨_, c, s, hc, rfl, hfrom, _⟩ := hs
      refine ⟨(h.stored c₀ hc₀).1, ?_⟩
      rw [endpoint_apply]
      split_ifs with hsame
      · exact (h.stored c₀ hc₀).2
      · -- The pass sets the endpoint to an address that it was told.
        obtain ⟨ip, hip, hne, heq⟩ := hfrom.resolve_left (Ne.symm hsame)
        rw [heq]
        exact h.addresses ip (h.read c hc ▸ hip) hne
  · rcases Sight.cluster_origin hc with hread | ⟨rfl, hstored⟩
    · exact h.read c hread
    · exact (h.stored c hstored).1
  · exact (Sight.addresses_next hip).elim (fun hip => h.addresses ip hip hne)
      fun hip => hshown ip hip hne

theorem endpoint_preserves (ext : Externals) (k : ObjectKey) (t : String)
    (Q : APIEndpoint → Prop) :
    (observed ext).Preserves (contract.both sightContract)
      (fun w v => Offers k t Q w (Controller.firstView v))
      fun w v => EndpointInv k t Q w (v k).2 where
  start w v j _ h := by
    refine update_rule (Q := fun (u : View × Sight) => EndpointInv k t Q w u.2)
      (fun _ => ?_) fun _ => h
    exact ⟨h.stored, nofun, nofun⟩
  issue w v j r a hg hok h := by
    refine update_rule (Q := fun (u : View × Sight) => EndpointInv k t Q (exec j r a w).2 u.2) ?_ ?_
    · rintro rfl
      exact h.own hg.1 hg.2 hok.1
    · intro hk
      refine ⟨fun c hc => h.stored c ?_, h.read, h.addresses⟩
      rwa [(exec_effect r a hg.1).clusters_ne hk] at hc
  env w v ev hok h := by
    refine ⟨fun c' hc' => ?_, h.read, h.addresses⟩
    rcases (env_effect w ev).cluster_origin hc' with ⟨fs, rfl⟩ | ⟨c, hc, _, hspec | rfl⟩
    · exact hok.2 rfl
    · rw [hspec]
      exact h.stored c hc
    · exact hok.2 rfl

/-- In every run in which cluster `k` keeps its target namespace, and users write, and Harvester
shows for the load balancer and the Service of that name there, only endpoints with `Q`, the stored
endpoint of `k` satisfies `Q`. -/
theorem endpoint_offered (ext : Externals) (k : ObjectKey) (t : String) (Q : APIEndpoint → Prop)
    (s : ClusterState) (hs : Starts s)
    (hstart : ∀ c ∈ s.world.clusters.lookup k,
      c.spec.targetNamespace = t ∧ Q c.spec.controlPlaneEndpoint)
    (acts : List ClusterAction) (hok : (system ext).Admissible (Offers k t Q) s acts)
    (c : HarvesterCluster) (hc : ((system ext).run s acts).world.clusters.lookup k = some c) :
    Q c.spec.controlPlaneEndpoint := by
  obtain ⟨v, -, h, -⟩ := hs.reaches (endpoint_preserves ext k t Q) ⟨hstart, nofun, nofun⟩ hok
  exact (h.stored c hc).2

end Endpoint

namespace Sample

def Expected (ep : APIEndpoint) : Prop := ep = ⟨"", 0⟩ ∨ ep = ⟨"10.0.0.9", 6443⟩

instance : DecidablePred Expected := fun _ => inferInstanceAs (Decidable (_ ∨ _))

def exposed (status : HarvesterClusterStatus) : ClusterState where
  world :=
    { empty.world with
      clusters := (∅ : Table ObjectKey HarvesterCluster).insert keyX
        ⟨[clusterFinalizer], false, spec, status⟩
      machines := (∅ : Table ObjectKey MachineLabels).insert keyX ⟨some "x", true⟩
      loadBalancers := (∅ : Table NamespacedName LoadBalancer).insert ⟨"target", keyX.lbName⟩
        ⟨⟨"", "", .dhcp, [], ""⟩, "10.0.0.9"⟩ }
  pass _ := .ret ()
  view _ := .fresh

theorem starts_exposed (status : HarvesterClusterStatus) : Starts (exposed status) :=
  ⟨fun _ => rfl, fun _ => rfl⟩

def served : ClusterState := (system ext).run (exposed .empty) (pass keyX ++ pass keyX)

end Sample

open Sample in
theorem endpoint_offered_sample :
    served.world.clusters.lookup keyX = some (storedX served) ∧
      (storedX served).spec.controlPlaneEndpoint.host ≠ "" ∧
      Expected (storedX served).spec.controlPlaneEndpoint := by
  obtain ⟨hstored, hset⟩ : served.world.clusters.lookup keyX = some (storedX served) ∧
      (storedX served).spec.controlPlaneEndpoint.host ≠ "" := by decide +kernel
  exact ⟨hstored, hset, endpoint_offered ext keyX "target" Expected _ (starts_exposed .empty)
    (by decide +kernel) (pass keyX ++ pass keyX) (by decide +kernel) _ hstored⟩

section Stopped

variable {ext : Externals} {k : ObjectKey} {w : World} {e : Sight}

/-- At most the Paused condition of the stored cluster has changed, or its flag `provisioned`, to
the readiness that the pass has read. -/
inductive Mirrors (k : ObjectKey) (e : Sight) (w : World) : World → Prop
  | same : Mirrors k e w w
  | pause {c₀ : HarvesterCluster} (p : Condition) (stored : w.clusters.lookup k = some c₀) :
    Mirrors k e w (w.setCluster k (c₀.markPaused p))
  | mirror {c₀ : HarvesterCluster} {b : Bool} (stored : w.clusters.lookup k = some c₀)
    (mirrored : b = c₀.status.provisioned ∨ ∃ c, e.cluster = some c ∧ b = c.status.ready) :
    Mirrors k e w
      (w.setCluster k { c₀ with status := { c₀.status with provisioned := b } })

theorem mirrorReady_apply (c : HarvesterCluster) (st : HarvesterClusterStatus) :
    ∃ b, (StatusPatch.between c.status (mirrorReady c).status).apply st =
      { st with provisioned := b } ∧ (b = st.provisioned ∨ b = c.status.ready) := by
  by_cases hready : c.status.provisioned = c.status.ready
  · refine ⟨st.provisioned, ?_, Or.inl rfl⟩
    simp [StatusPatch.apply, StatusPatch.between, mirrorReady, changedTo, hready]
  · refine ⟨c.status.ready, ?_, Or.inr rfl⟩
    simp [StatusPatch.apply, StatusPatch.between, mirrorReady, changedTo, hready]

theorem exec_stopped {r : Req} (a : Answer r) (hs : SightGuard k e r)
    (hstop : e.stopped ≠ some false) : Mirrors k e w (exec k r a w).2 := by
  cases r with
  | getCluster => exact .same
  | getOwnerCluster => exact .same
  | ensurePausedCondition o recorded =>
    exact ensurePaused_rule (E := Mirrors k e w) .same fun c hc => .pause _ hc
  | patchConditions before after =>
    obtain ⟨p, hnew, rfl⟩ := hs hstop
    refine Fault.write_rule (E := fun _ w' => Mirrors k e w w') ?_ fun _ _ => .same
    intro _ _ w' hout _
    unfold World.patchConditions at hout
    split at hout
    · cases hout
    · split at hout
      · cases hout
      · rename_i c hc _ cs hcs
        cases hout
        rw [Conditions.merge_set hnew hcs]
        exact .pause p hc
  | patchStatus p =>
    obtain ⟨c, st, hc, rfl, hst⟩ := hs
    rw [hst hstop]
    refine Fault.write_rule (E := fun _ w' => Mirrors k e w w') ?_ fun _ _ => .same
    intro _ _ w' hout _
    unfold World.patchStatus at hout
    split at hout
    · cases hout
    · rename_i c₀ hc₀
      cases hout
      obtain ⟨b, happly, hb⟩ := mirrorReady_apply c c₀.status
      rw [happly]
      exact .mirror hc₀ (hb.imp_right fun hb => ⟨c, hc, hb⟩)
  | _ => exact absurd hs.1 hstop

end Stopped

namespace Sample

def paused : Condition := ⟨.true_, "Paused", "Cluster spec.paused is set to true"⟩

def pausedAnswers : (r : Req) → Answer r
  | .ensurePausedCondition _ _ => (⟨paused, .none⟩ : PausedAnswer)
  | r => answers noFault r

/-- A ready cluster whose status does not say so is paused; its pass has only the patches left. -/
def pausedState : ObservedState :=
  (observed ext).run (Controller.watched .fresh (exposed ⟨true, ∅, false, []⟩))
    (.start keyX :: List.replicate 3 (.exec keyX pausedAnswers))

def pausedX (s : ObservedState) : Option (Option Condition × Bool) :=
  (s.world.clusters.lookup keyX).map fun c =>
    (c.status.conditions.lookup "Paused", c.status.provisioned)

end Sample

section Accepted

variable {ext : Externals} {k : ObjectKey} {c c' c₀ : HarvesterCluster}

/-- A patch that names a pool for the VMs, if any, keeps the object admitted. -/
theorem Admitted.apply {p : ObjectPatch} (h : Admitted c.spec)
    (hp : ∀ ref ∈ p.vmPoolRef, ref ≠ "") : Admitted (p.apply c).spec := by
  unfold Admitted validateHarvesterCluster at h ⊢
  obtain ⟨hrest, hvm⟩ := List.append_eq_nil_iff.mp h
  refine List.append_eq_nil_iff.mpr ⟨hrest, ?_⟩
  simp only [ObjectPatch.apply]
  cases href : p.vmPoolRef with
  | none => exact hvm
  | some ref =>
    cases hcfg : c.spec.vmNetworkConfig with
    | none => rfl
    | some cfg =>
      rw [hcfg] at hvm
      obtain ⟨hfirst, hmask⟩ := List.append_eq_nil_iff.mp hvm
      obtain ⟨_, hgateway⟩ := List.append_eq_nil_iff.mp hfirst
      refine List.append_eq_nil_iff.mpr ⟨List.append_eq_nil_iff.mpr ⟨?_, hgateway⟩, hmask⟩
      rw [if_neg]
      rintro ⟨hrefs, _⟩
      unfold VMNetworkConfig.getIPPoolRefs at hrefs
      split_ifs at hrefs with hnil hne
      · exact hnil hrefs
      · exact hne (hp ref href)

/-- The controller names only the pool that it generates. -/
theorem vmPoolRef_between (h : vmPoolRef c' = vmPoolRef c ∨ vmPoolRef c' = some k.vmPoolName) :
    ∀ ref ∈ (ObjectPatch.between c c').vmPoolRef,
      ref = k.vmPoolName ∧ c.spec.vmNetworkConfig ≠ none := by
  intro ref href
  unfold ObjectPatch.between at href
  dsimp only at href
  split at href
  · rename_i b a hb ha
    obtain ⟨hne, rfl⟩ := changedTo_eq_some href
    unfold vmPoolRef at h
    rw [hb, ha] at h
    refine ⟨h.elim (fun h => absurd (Option.some.inj h).symm hne) Option.some.inj, ?_⟩
    rw [hb]
    nofun
  · cases href

/-- With the finalizers and the mark of deletion as they were read, the patch adds no finalizer
to a cluster that is being deleted. -/
theorem Sight.LetsGo.no_new_finalizer {e : Sight} (h : e.LetsGo k c c')
    (hd : c₀.deleting = true → c.deleting = true) (hf : c₀.finalizers = c.finalizers) :
    ¬ (c₀.deleting = true ∧
      ∃ f ∈ ((ObjectPatch.between c c').apply c₀).finalizers, f ∉ c₀.finalizers) := by
  rintro ⟨hdeleting, f, hmem, hnew⟩
  rw [finalizers_apply] at hmem
  split_ifs at hmem with hsame
  · exact hnew hmem
  · rcases h with hkept | ⟨halive, _⟩ | ⟨_, hdrop, _⟩
    · exact hsame hkept.symm
    · exact absurd (hd hdeleting) (by simp [halive])
    · rw [hdrop] at hmem
      rw [hf] at hnew
      exact hnew (mem_removeFinalizer.mp (mem_removeFinalizer.mp hmem).1).1

theorem accepted_preserves (ext : Externals) :
    (observed ext).Preserves (contract.both sightContract) (fun _ _ _ => True)
      fun w v => AllAdmitted w ∧ ∀ k, (v k).2.cluster = (v k).1.cluster where
  start _ _ _ _ h := ⟨h.1, forall_update (Q := fun _ (u : View × Sight) =>
    u.2.cluster = u.1.cluster) rfl fun j _ => h.2 j⟩
  issue _ _ k r a hg _ h := ⟨(exec_effect r a hg.1).allAdmitted h.1,
    forall_update (Q := fun _ (u : View × Sight) => u.2.cluster = u.1.cluster)
      ((Sight.cluster_next _ r _).trans (View.readCluster_eq (h.2 k) r _)) fun j _ => h.2 j⟩
  env w _ e _ h := ⟨(env_effect w e).allAdmitted h.1, h.2⟩

/-- In every run from admitted clusters, the server takes the patch that a pass is about to send,
unless since the pass has read the cluster its VM network was removed, its deletion began or its
finalizers changed. -/
theorem own_patch_accepted (ext : Externals) (k : ObjectKey) (s : ClusterState) (hs : Starts s)
    (hadm : AllAdmitted s.world) (acts : List ClusterAction) (p : ObjectPatch)
    (c c₀ : HarvesterCluster) (hreq : ((system ext).run s acts).request k = some (.patchObject p))
    (hread : (((system ext).run s acts).view k).cluster = some c)
    (hstored : ((system ext).run s acts).world.clusters.lookup k = some c₀)
    (hnet : c₀.spec.vmNetworkConfig = none → c.spec.vmNetworkConfig = none)
    (hd : c₀.deleting = true → c.deleting = true) (hf : c₀.finalizers = c.finalizers) :
    ∃ w', ((system ext).run s acts).world.patchObject k p = .ok ((), w') := by
  have hok : (system ext).Admissible (fun _ _ _ => True) s acts :=
    Controller.admissible_of_forall fun _ _ _ => trivial
  obtain ⟨v, hview, ⟨hadmitted, hsame⟩, hguard⟩ := hs.reaches (accepted_preserves ext)
    ⟨hadm, fun _ => rfl⟩ hok
  obtain ⟨⟨c₁, c₁', hc₁, hp, _, href⟩, _, c₂, c₂', hc₂, hp₂, _, hgo⟩ := hguard k _ hreq
  have hread : (v k).1.cluster = some c := by
    rw [← hread, ← hview]
    rfl
  obtain rfl := Option.some.inj (hread.symm.trans hc₁)
  obtain rfl := Option.some.inj (hread.symm.trans ((hsame k).symm.trans hc₂))
  have hrefs := vmPoolRef_between href
  rw [← hp] at hrefs
  unfold World.patchObject
  rw [hstored]
  dsimp only
  rw [if_neg, if_neg, if_neg]
  · split_ifs <;> exact ⟨_, rfl⟩
  · rw [hp₂]
    exact hgo.no_new_finalizer hd hf
  · rw [not_not]
    exact (hadmitted k c₀ hstored).apply fun ref hr => (hrefs ref hr).1 ▸ vmPoolName_ne_empty k
  · rintro ⟨hsome, hnone⟩
    obtain ⟨ref, hr⟩ := Option.isSome_iff_exists.mp hsome
    exact (hrefs ref hr).2 (hnet hnone)

end Accepted

namespace Sample

def adoption : List ClusterAction :=
  created keyX [] spec ++ calls 6 noFault keyX

def adopting : ClusterState := (system ext).run empty adoption

end Sample

open Sample in
theorem own_patch_accepted_sample :
    adopting.request keyX =
        some (.patchObject ⟨some [clusterFinalizer], some "https://harvester", none, none, none⟩) ∧
      ∃ w', adopting.world.patchObject keyX
        ⟨some [clusterFinalizer], some "https://harvester", none, none, none⟩ = .ok ((), w') := by
  obtain ⟨hreq, hread, hstored⟩ : adopting.request keyX = some (.patchObject
        ⟨some [clusterFinalizer], some "https://harvester", none, none, none⟩) ∧
      (adopting.view keyX).cluster = some (HarvesterCluster.markPaused ⟨[], false, spec, .empty⟩
        (PausedAnswer.unpaused .none).condition) ∧
      adopting.world.clusters.lookup keyX = some (storedX adopting) := by decide +kernel
  exact ⟨hreq, own_patch_accepted ext keyX empty starts_empty allAdmitted_empty adoption _ _ _ hreq
    hread hstored (by decide +kernel) (by decide +kernel) (by decide +kernel)⟩

end Caphv.Cluster
