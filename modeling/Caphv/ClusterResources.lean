import Caphv.ClusterSight
import Caphv.PoolOwnership

namespace Caphv.Cluster

/-- The object exists; a pool counts for the cluster that created it. -/
def World.exposes (w : World) (k : ObjectKey) : Exposure → Bool
  | .loadBalancer n => (w.loadBalancers.lookup n).isSome
  | .service n => (w.services.lookup n).isSome
  | .pool n => (w.pools.lookup n).any fun p => p.creator = some k

def Req.exposure : Req → Option Exposure
  | .createLoadBalancer n _ => some (.loadBalancer n)
  | .createService n _ => some (.service n)
  | .createPool n _ => some (.pool n)
  | _ => none

section Tables

variable {w : World} {k j : ObjectKey}

@[simp] theorem note_services (w : World) (k : ObjectKey) (r : Req) (x : Resp r) :
    (w.note k r x).services = w.services := by
  unfold World.note
  split
  · rfl
  · split_ifs <;> rfl
  · rfl

@[simp] theorem note_loadBalancers (w : World) (k : ObjectKey) (r : Req) (x : Resp r) :
    (w.note k r x).loadBalancers = w.loadBalancers := by
  unfold World.note
  split
  · rfl
  · split_ifs <;> rfl
  · rfl

/-- What no outcome of a write changes is unchanged under every fault. -/
theorem write_same {α β : Type} (g : World → β) (f : Fault) (out : Except ApiError (α × World))
    (h : ∀ a w', out = .ok (a, w') → g w' = g w) : g (f.write w out).2 = g w :=
  Fault.write_rule (E := fun _ w' => g w' = g w) (fun _ a w' hout _ => h a w' hout) fun _ _ => rfl

def Req.touchesLB : Req → Bool
  | .createService _ _ => true
  | .updateService _ _ => true
  | .deleteService _ => true
  | .createLoadBalancer _ _ => true
  | .deleteLoadBalancer _ => true
  | _ => false

/-- Every other request leaves the Services and the load balancers as they are. -/
theorem respond_same (r : Req) (a : Answer r) (hr : r.touchesLB = false) :
    ((respond j r a w).2.services, (respond j r a w).2.loadBalancers) =
      (w.services, w.loadBalancers) := by
  have hversioned : ∀ {κ α : Type} [DecidableEq κ] (f : Fault) (t : Table κ (Versioned α))
      (key : κ) (new : Versioned α) (put : Table κ (Versioned α) → World),
      (∀ t', ((put t').services, (put t').loadBalancers) = (w.services, w.loadBalancers)) →
      ((f.write w ((updateVersioned t key new).map fun t => ((), put t))).2.services,
        (f.write w ((updateVersioned t key new).map fun t => ((), put t))).2.loadBalancers) =
        (w.services, w.loadBalancers) := by
    intro κ α _ f t key new put hput
    exact updateVersioned_rule (E := fun _ w' =>
      (w'.services, w'.loadBalancers) = (w.services, w.loadBalancers)) (fun _ => hput _)
      fun _ => rfl
  cases r with
  | createService n ip => cases hr
  | updateService n svc => cases hr
  | deleteService n => cases hr
  | createLoadBalancer n spec => cases hr
  | deleteLoadBalancer n => cases hr
  | createPool n spec =>
    refine write_same (fun w => (w.services, w.loadBalancers)) a _ fun x w' hout => ?_
    unfold World.createPool at hout
    split_ifs at hout
    cases hout
    rfl
  | updatePool n p =>
    refine write_same (fun w => (w.services, w.loadBalancers)) a _ fun x w' hout => ?_
    unfold World.updatePool at hout
    split at hout
    · cases hout
    · split_ifs at hout
      cases hout
      rfl
  | deletePool n =>
    refine write_same (fun w => (w.services, w.loadBalancers)) a _ fun x w' hout => ?_
    unfold World.deletePool at hout
    split_ifs at hout
    split at hout
    · cases hout
    · cases hout
      rfl
  | patchConditions b c =>
    refine write_same (fun w => (w.services, w.loadBalancers)) a _ fun x w' hout => ?_
    unfold World.patchConditions at hout
    split at hout
    · cases hout
    · split at hout
      · cases hout
      · cases hout
        rfl
  | patchObject p =>
    refine write_same (fun w => (w.services, w.loadBalancers)) a _ fun x w' hout => ?_
    unfold World.patchObject at hout
    split at hout
    · cases hout
    · dsimp only at hout
      split_ifs at hout <;> cases hout <;> rfl
  | patchStatus p =>
    refine write_same (fun w => (w.services, w.loadBalancers)) a _ fun x w' hout => ?_
    unfold World.patchStatus at hout
    split at hout
    · cases hout
    · cases hout
      rfl
  | ensurePausedCondition o recorded =>
    exact ensurePaused_rule (E := fun w' =>
      (w'.services, w'.loadBalancers) = (w.services, w.loadBalancers)) rfl fun _ _ => rfl
  | updateConfigMap n data => exact hversioned a _ _ _ _ fun _ => rfl
  | updateFleetCluster n labels => exact hversioned a _ _ _ _ fun _ => rfl
  | _ => rfl

theorem isSome_insert {κ ν : Type} [DecidableEq κ] {t : Table κ ν} {n m : κ} {v : ν}
    (h : ((t.insert n v).lookup m).isSome = true) : m = n ∨ (t.lookup m).isSome = true := by
  rw [Table.lookup_insert_eq] at h
  split_ifs at h with hm
  · exact Or.inl hm
  · exact Or.inr h

theorem isSome_erase {κ ν : Type} [DecidableEq κ] {t : Table κ ν} {n m : κ}
    (h : ((t.erase n).lookup m).isSome = true) : m ≠ n ∧ (t.lookup m).isSome = true := by
  rw [Table.lookup_erase_eq] at h
  split_ifs at h with hm
  · cases h
  · exact ⟨hm, h⟩

/-- What holds after a write held before, or the write has done it. -/
theorem write_origin {f : Fault} {out : Except ApiError (Unit × World)} {Q : World → Prop}
    {P : Prop} (h : ∀ u w', out = .ok (u, w') → Q w' → Q w ∨ P) :
    Q (f.write w out).2 → Q w ∨ P :=
  Fault.write_rule (E := fun _ w' => Q w' → Q w ∨ P) (fun _ u w' hout _ => h u w' hout)
    fun _ _ => Or.inl

/-- A Service or a load balancer exists after a request only if it did before, or the request
has made it. -/
theorem respond_origin (r : Req) (a : Answer r) {y : Exposure} (hy : ∀ n, y ≠ .pool n)
    (h : (respond j r a w).2.exposes k y = true) :
    w.exposes k y = true ∨ r.exposure = some y := by
  have hwrite : ∀ {f : Fault} {out : Except ApiError (Unit × World)},
      (∀ u w', out = .ok (u, w') → w'.exposes k y = true →
        w.exposes k y = true ∨ r.exposure = some y) → (f.write w out).2.exposes k y = true →
      w.exposes k y = true ∨ r.exposure = some y :=
    write_origin (Q := fun w => w.exposes k y = true)
  have hsame : r.touchesLB = false → w.exposes k y = true ∨ r.exposure = some y := by
    intro hr
    have htables := Prod.mk.inj (respond_same (j := j) (w := w) r a hr)
    cases y with
    | loadBalancer n => exact Or.inl (by rwa [World.exposes, htables.2] at h)
    | service n => exact Or.inl (by rwa [World.exposes, htables.1] at h)
    | pool n => exact absurd rfl (hy n)
  cases r with
  | createService m ip =>
    refine hwrite (fun u w' hout hx => ?_) h
    unfold World.createService at hout
    split_ifs at hout
    cases hout
    cases y with
    | loadBalancer n => exact Or.inl hx
    | service n =>
      rcases isSome_insert hx with rfl | hx
      · exact Or.inr rfl
      · exact Or.inl hx
    | pool n => exact absurd rfl (hy n)
  | updateService m svc =>
    refine hwrite (fun u w' hout hx => ?_) h
    unfold updateVersioned at hout
    split at hout
    · cases hout
    · rename_i stored hs
      split_ifs at hout
      · cases hout
        cases y with
        | loadBalancer n => exact Or.inl hx
        | service n =>
          refine Or.inl ((isSome_insert hx).elim (fun hn => ?_) id)
          rw [World.exposes, hn, hs]
          rfl
        | pool n => exact absurd rfl (hy n)
      · cases hout
  | deleteService m =>
    refine hwrite (fun u w' hout hx => ?_) h
    unfold World.deleteService at hout
    split at hout
    · cases hout
    · cases hout
      cases y with
      | loadBalancer n => exact Or.inl hx
      | service n => exact Or.inl (isSome_erase hx).2
      | pool n => exact absurd rfl (hy n)
  | createLoadBalancer m spec =>
    refine hwrite (fun u w' hout hx => ?_) h
    unfold World.createLoadBalancer at hout
    split_ifs at hout
    cases hout
    cases y with
    | loadBalancer n =>
      rcases isSome_insert hx with rfl | hx
      · exact Or.inr rfl
      · exact Or.inl hx
    | service n => exact Or.inl hx
    | pool n => exact absurd rfl (hy n)
  | deleteLoadBalancer m =>
    refine hwrite (fun u w' hout hx => ?_) h
    unfold World.deleteLoadBalancer at hout
    split at hout
    · cases hout
    · cases hout
      cases y with
      | loadBalancer n => exact Or.inl (isSome_erase hx).2
      | service n => exact Or.inl hx
      | pool n => exact absurd rfl (hy n)
  | _ => exact hsame rfl

@[simp] theorem exposes_note (r : Req) (x : Resp r) (y : Exposure) :
    (w.note j r x).exposes k y = w.exposes k y := by
  cases y <;> simp [World.exposes]

theorem exposes_pool {n : String} :
    w.exposes k (.pool n) = true ↔ ∃ p, w.pools.lookup n = some p ∧ p.creator = some k := by
  simp [World.exposes, Option.any_eq_true]

/-- What a cluster has made exists after a request only if it did before, or the request has made
it; no other cluster makes a pool of this one. -/
theorem exec_origin {v : View} {r : Req} {a : Answer r} {y : Exposure} (hg : Guard j v r)
    (h : (exec j r a w).2.exposes k y = true) :
    w.exposes k y = true ∨ r.exposure = some y ∧ (j = k ∨ ∀ n, y ≠ .pool n) := by
  by_cases hy : ∀ n, y ≠ .pool n
  · rw [exec, exposes_note] at h
    exact (respond_origin r a hy h).imp_right fun hr => ⟨hr, Or.inr hy⟩
  · obtain ⟨n, rfl⟩ := not_forall_not.mp hy
    obtain ⟨p', hp', hc⟩ := exposes_pool.mp h
    rcases (exec_effect r a hg).creator hp' with ⟨p, hp, hcp⟩ | ⟨hcj, spec, rfl⟩
    · exact Or.inl (exposes_pool.mpr ⟨p, hp, hcp.trans hc⟩)
    · exact Or.inr ⟨rfl, Or.inl (Option.some.inj (hcj.symm.trans hc))⟩

/-- What holds after a deletion, and when there is nothing to delete, holds once the server says
that the object is gone. -/
theorem write_gone {f : Fault} {out : Except ApiError (Unit × World)} {Q : World → Prop}
    (hok : ∀ w', out = .ok ((), w') → Q w') (habsent : out = .error .notFound → Q w) :
    gone (f.write w out).1 = true → Q (f.write w out).2 :=
  Fault.write_rule (E := fun x w' => gone x = true → Q w') (fun _ _ w' hout _ _ => hok w' hout)
    fun _ hnf he => habsent (hnf he)

theorem deleteService_gone (n : NamespacedName) (f : Fault)
    (h : gone (f.write w (w.deleteService n)).1 = true) :
    (f.write w (w.deleteService n)).2.exposes k (.service n) = false := by
  refine write_gone (Q := fun w => w.exposes k (.service n) = false) (fun w' hout => ?_)
    (fun hout => ?_) h
  · unfold World.deleteService at hout
    split at hout
    · cases hout
    · cases hout
      simp [World.exposes]
  · unfold World.deleteService at hout
    split at hout
    · simp [World.exposes, *]
    · cases hout

theorem deleteLoadBalancer_gone (n : NamespacedName) (f : Fault)
    (h : gone (f.write w (w.deleteLoadBalancer n)).1 = true) :
    (f.write w (w.deleteLoadBalancer n)).2.exposes k (.loadBalancer n) = false := by
  refine write_gone (Q := fun w => w.exposes k (.loadBalancer n) = false) (fun w' hout => ?_)
    (fun hout => ?_) h
  · unfold World.deleteLoadBalancer at hout
    split at hout
    · cases hout
    · cases hout
      simp [World.exposes]
  · unfold World.deleteLoadBalancer at hout
    split at hout
    · simp [World.exposes, *]
    · cases hout

theorem deletePool_gone (n : String) (f : Fault)
    (h : gone (f.write w (w.deletePool n)).1 = true) :
    (f.write w (w.deletePool n)).2.exposes k (.pool n) = false := by
  refine write_gone (Q := fun w => w.exposes k (.pool n) = false) (fun w' hout => ?_)
    (fun hout => ?_) h
  · unfold World.deletePool at hout
    split_ifs at hout
    split at hout
    · cases hout
    · cases hout
      simp [World.exposes]
  · unfold World.deletePool at hout
    split_ifs at hout
    · cases hout
    split at hout
    · simp [World.exposes, *]
    · cases hout

theorem Sight.of_mem_remove {e : Sight} {y z : Exposure} {x : Except ApiError Unit}
    (h : y ∈ (e.remove z x).gone) : y ∈ e.gone ∨ y = z ∧ Caphv.gone x = true := by
  unfold Sight.remove at h
  split_ifs at h with hx
  · exact (List.mem_cons.mp h).symm.imp_right fun hy => ⟨hy, hx⟩
  · exact Or.inl h

/-- What the pass has seen go is not there, after each of its own requests. -/
theorem exec_gone {v : View} {e : Sight} {r : Req} {a : Answer r} {y : Exposure}
    (hg : Guard k v r) (h : y ∈ e.gone → w.exposes k y = false)
    (hy : y ∈ (e.next r (exec k r a w).1).gone) : (exec k r a w).2.exposes k y = false := by
  have hold : y ∈ e.gone → r.exposure ≠ some y → (exec k r a w).2.exposes k y = false := by
    intro hmem hr
    by_contra hx
    rcases exec_origin hg (Bool.not_eq_false _ ▸ hx) with hx | ⟨hx, _⟩
    · exact absurd (h hmem) (by simp [hx])
    · exact hr hx
  have hmake : ∀ z, y ∈ (e.make z).gone → r.exposure = some z →
      (exec k r a w).2.exposes k y = false := by
    intro z hz hr
    obtain ⟨hmem, hne⟩ := List.mem_filter.mp hz
    refine hold hmem fun hr' => of_decide_eq_true hne ?_
    exact (Option.some.inj (hr.symm.trans hr')).symm
  have hkeep : (e.next r (exec k r a w).1).gone = e.gone → r.exposure = none →
      (exec k r a w).2.exposes k y = false :=
    fun hsame hr => hold (hsame ▸ hy) (by simp [hr])
  cases r with
  | createLoadBalancer n spec => exact hmake _ hy rfl
  | createService n ip => exact hmake _ hy rfl
  | createPool n spec => exact hmake _ hy rfl
  | deleteLoadBalancer n =>
    rcases Sight.of_mem_remove hy with hmem | ⟨rfl, hx⟩
    · exact hold hmem nofun
    · exact deleteLoadBalancer_gone n a hx
  | deleteService n =>
    rcases Sight.of_mem_remove hy with hmem | ⟨rfl, hx⟩
    · exact hold hmem nofun
    · exact deleteService_gone n a hx
  | deletePool n =>
    rcases Sight.of_mem_remove hy with hmem | ⟨rfl, hx⟩
    · exact hold hmem nofun
    · rw [exec, exposes_note]
      exact deletePool_gone n a hx
  | getCluster =>
    refine hkeep ?_ rfl
    cases (exec k .getCluster a w).1 <;> rfl
  | getService n =>
    refine hkeep ?_ rfl
    cases (exec k (.getService n) a w).1 <;> rfl
  | getLoadBalancer n =>
    refine hkeep ?_ rfl
    cases (exec k (.getLoadBalancer n) a w).1 <;> rfl
  | _ => exact hkeep rfl rfl

/-- The environment makes no Service and no load balancer. -/
theorem env_same (e : Env) (n : NamespacedName) :
    ((w.env e).services.lookup n).isSome = (w.services.lookup n).isSome ∧
      ((w.env e).loadBalancers.lookup n).isSome = (w.loadBalancers.lookup n).isSome := by
  cases e with
  | createCluster k finalizers spec =>
    simp only [World.env]
    split_ifs <;> exact ⟨rfl, rfl⟩
  | editCluster k spec =>
    simp only [World.env]
    split
    · exact ⟨rfl, rfl⟩
    · split_ifs <;> exact ⟨rfl, rfl⟩
  | deleteCluster k =>
    simp only [World.env]
    split
    · exact ⟨rfl, rfl⟩
    · split_ifs <;> exact ⟨rfl, rfl⟩
  | patchClusterStatus k cs =>
    simp only [World.env]
    split <;> exact ⟨rfl, rfl⟩
  | createPool n pool =>
    simp only [World.env]
    split_ifs <;> exact ⟨rfl, rfl⟩
  | putPool n pool =>
    simp only [World.env]
    split <;> exact ⟨rfl, rfl⟩
  | setIngress m ingress =>
    simp only [World.env]
    split
    · exact ⟨rfl, rfl⟩
    · rename_i svc hs
      refine ⟨?_, rfl⟩
      rw [Table.lookup_insert_eq]
      split_ifs with hn
      · rw [hn, hs]
        rfl
      · rfl
  | setAddress m address =>
    simp only [World.env]
    split
    · exact ⟨rfl, rfl⟩
    · rename_i lb hs
      refine ⟨rfl, ?_⟩
      rw [Table.lookup_insert_eq]
      split_ifs with hn
      · rw [hn, hs]
        rfl
      · rfl
  | _ => exact ⟨rfl, rfl⟩

/-- The environment makes nothing for a cluster. -/
theorem env_origin {e : Env} {y : Exposure} (h : (w.env e).exposes k y = true) :
    w.exposes k y = true := by
  cases y with
  | loadBalancer n => rwa [World.exposes, (env_same e n).2] at h
  | service n => rwa [World.exposes, (env_same e n).1] at h
  | pool n =>
    obtain ⟨p', hp', hc⟩ := exposes_pool.mp h
    rcases (env_effect w e).creator hp' with ⟨p, hp, hcp⟩ | ⟨pool, rfl⟩
    · exact exposes_pool.mpr ⟨p, hp, hcp.trans hc⟩
    · simp only [World.env] at hp'
      split_ifs at hp'
      · exact exposes_pool.mpr ⟨p', hp', hc⟩
      · rw [lookup_setPool, if_pos rfl] at hp'
        obtain rfl := Option.some.inj hp'
        cases hc

end Tables

section Stored

variable {k j : ObjectKey} {w w' : World} {v v' : View} {e : Sight} {c c' : HarvesterCluster}

/-- A stored cluster was there before a request, up to its status, unless a pass has patched its
own. -/
theorem Effect.cluster_origin {r : Req} {x : Resp r} (he : Effect j w v r x w' v')
    (hc' : w'.clusters.lookup k = some c') :
    ∃ c, w.clusters.lookup k = some c ∧ (c' = { c with status := c'.status } ∨
      k = j ∧ ∃ p, r = .patchObject p ∧ c' = p.apply c) := by
  by_cases hk : k = j
  · subst hk
    have hstatus : ∀ {c₀ : HarvesterCluster}, w.clusters.lookup k = some c₀ →
        c' = { c₀ with status := c'.status } →
        ∃ c, w.clusters.lookup k = some c ∧ (c' = { c with status := c'.status } ∨
          k = k ∧ ∃ p, r = .patchObject p ∧ c' = p.apply c) := fun hs hc => ⟨_, hs, Or.inl hc⟩
    have hset : ∀ {c₀ c₁ : HarvesterCluster},
        (w.setCluster k c₁).clusters.lookup k = some c' →
        c₁ = { c₀ with status := c₁.status } → c' = { c₀ with status := c'.status } := by
      intro c₀ c₁ hset hc₁
      rw [lookup_setCluster, if_pos rfl] at hset
      rwa [← Option.some.inj hset]
    cases he with
    | elsewhere hclusters _ _ => exact hstatus (hclusters ▸ hc') rfl
    | createPool _ _ _ _ =>
      rw [note_clusters] at hc'
      exact hstatus hc' rfl
    | deletePool _ _ _ =>
      rw [note_clusters] at hc'
      exact hstatus hc' rfl
    | patchConditions _ _ _ _ hs _ => exact hstatus hs (hset hc' rfl)
    | patchStatus _ hs => exact hstatus hs (hset hc' rfl)
    | pause hs => exact hstatus hs (hset hc' rfl)
    | @patchObject p x c₁ c₂ c₀ _ _ _ _ hs _ =>
      rw [lookup_setCluster, if_pos rfl] at hc'
      exact ⟨c₀, hs, Or.inr ⟨rfl, p, rfl, (Option.some.inj hc').symm⟩⟩
    | patchObjectLast _ _ _ _ _ => simp at hc'
    | _ => exact hstatus hc' rfl
  · exact ⟨c', (he.clusters_ne hk) ▸ hc', Or.inl rfl⟩

/-- The object goes with the last of its finalizers, in a patch of its own pass. -/
theorem Effect.cluster_erased {r : Req} {x : Resp r} (he : Effect k w v r x w' v')
    (hc : w.clusters.lookup k = some c) (hc' : w'.clusters.lookup k = none) :
    ∃ p, r = .patchObject p ∧ (p.apply c).finalizers = [] := by
  have hkept : ∀ {P : Prop}, w'.clusters.lookup k = w.clusters.lookup k → P := fun h =>
    nomatch hc.symm.trans (h.symm.trans hc')
  have hset : ∀ {P : Prop} {c₁}, w' = w.setCluster k c₁ → P := by
    rintro P c₁ rfl
    rw [lookup_setCluster, if_pos rfl] at hc'
    cases hc'
  cases he with
  | elsewhere hclusters _ _ => exact hkept (by rw [hclusters])
  | createPool _ _ _ _ => exact hkept (by rw [note_clusters]; rfl)
  | deletePool _ _ _ => exact hkept (by rw [note_clusters])
  | patchConditions _ _ _ _ _ _ => exact hset rfl
  | patchStatus _ _ => exact hset rfl
  | pause _ => exact hset rfl
  | patchObject _ _ _ _ _ _ => exact hset rfl
  | @patchObjectLast p x c₁ c₂ c₀ _ _ _ hs hlast =>
    obtain rfl := Option.some.inj (hc.symm.trans hs)
    exact ⟨p, rfl, hlast⟩
  | _ => exact hkept rfl

/-- What the environment does to a stored cluster leaves its finalizers; only users write the
spec. -/
theorem EnvEffect.cluster_origin {e : Env} (he : EnvEffect w e w')
    (hc' : w'.clusters.lookup k = some c') :
    (∃ fs, e = .createCluster k fs c'.spec) ∨ ∃ c, w.clusters.lookup k = some c ∧
      c'.finalizers = c.finalizers ∧ (c'.spec = c.spec ∨ e = .editCluster k c'.spec) := by
  have hsame : w.clusters.lookup k = some c' →
      (∃ fs, e = .createCluster k fs c'.spec) ∨ ∃ c, w.clusters.lookup k = some c ∧
        c'.finalizers = c.finalizers ∧ (c'.spec = c.spec ∨ e = .editCluster k c'.spec) :=
    fun h => Or.inr ⟨c', h, rfl, Or.inl rfl⟩
  cases he with
  | elsewhere hclusters _ _ => exact hsame (hclusters ▸ hc')
  | @createCluster j fs spec _ _ =>
    rw [Table.lookup_insert_eq] at hc'
    split_ifs at hc' with hk
    · obtain rfl := Option.some.inj hc'
      exact Or.inl ⟨fs, hk ▸ rfl⟩
    · exact hsame hc'
  | @editCluster j spec c₀ hs _ =>
    rw [lookup_setCluster] at hc'
    split_ifs at hc' with hk
    · obtain rfl := Option.some.inj hc'
      exact Or.inr ⟨c₀, hk ▸ hs, rfl, Or.inr (hk ▸ rfl)⟩
    · exact hsame hc'
  | eraseCluster _ _ =>
    rw [Table.lookup_erase_eq] at hc'
    split_ifs at hc'
    exact hsame hc'
  | @markCluster j c₀ hs =>
    rw [lookup_setCluster] at hc'
    split_ifs at hc' with hk
    · obtain rfl := Option.some.inj hc'
      exact Or.inr ⟨c₀, hk ▸ hs, rfl, Or.inl rfl⟩
    · exact hsame hc'
  | @patchClusterStatus j cs c₀ hs =>
    rw [lookup_setCluster] at hc'
    split_ifs at hc' with hk
    · obtain rfl := Option.some.inj hc'
      exact Or.inr ⟨c₀, hk ▸ hs, rfl, Or.inl rfl⟩
    · exact hsame hc'
  | _ => exact hsame hc'

/-- Nobody but the controller takes the finalizer away. -/
theorem EnvEffect.protected_ {e : Env} (he : EnvEffect w e w') (h : Protected w k) :
    Protected w' k := by
  obtain ⟨c, hs, hf⟩ := h
  have hset : ∀ {j} {c₀ c₁ : HarvesterCluster}, w.clusters.lookup j = some c₀ →
      c₁.finalizers = c₀.finalizers → Protected (w.setCluster j c₁) k := by
    intro j c₀ c₁ hs₀ hfs
    unfold Protected
    rw [lookup_setCluster]
    split_ifs with hk
    · obtain rfl := Option.some.inj ((hk ▸ hs).symm.trans hs₀)
      exact ⟨c₁, rfl, hfs ▸ hf⟩
    · exact ⟨c, hs, hf⟩
  cases he with
  | elsewhere hclusters _ _ => exact ⟨c, hclusters ▸ hs, hf⟩
  | @createCluster j fs spec habsent _ =>
    refine ⟨c, ?_, hf⟩
    rw [Table.lookup_insert_eq, if_neg]
    · exact hs
    · rintro rfl
      exact nomatch habsent.symm.trans hs
  | editCluster hs₀ _ => exact hset hs₀ rfl
  | @eraseCluster j c₀ hs₀ hfree =>
    refine ⟨c, ?_, hf⟩
    rw [Table.lookup_erase_eq, if_neg]
    · exact hs
    · rintro rfl
      obtain rfl := Option.some.inj (hs.symm.trans hs₀)
      rw [hfree] at hf
      cases hf
  | markCluster hs₀ => exact hset hs₀ rfl
  | patchClusterStatus hs₀ => exact hset hs₀ rfl
  | _ => exact ⟨c, hs, hf⟩

theorem Sight.cluster_origin {r : Req} {a : Answer r}
    (h : (e.next r (exec k r a w).1).cluster = some c) :
    e.cluster = some c ∨ r = .getCluster ∧ w.clusters.lookup k = some c := by
  rw [e.cluster_next] at h
  by_cases hr : r = .getCluster
  · subst hr
    revert h
    show readCluster e.cluster .getCluster (Fault.reply a (found (w.clusters.lookup k))) =
      some c → _
    cases hx : Fault.reply a (found (w.clusters.lookup k)) with
    | error err => exact Or.inl
    | ok c₀ => exact fun h => Or.inr ⟨rfl, Option.some.inj h ▸ found_eq_ok (Fault.reply_eq_ok hx)⟩
  · rw [readCluster_of_ne hr] at h
    exact Or.inl h

/-- A cluster loses its finalizer only to a patch of its own pass, after all that the deletion
takes away was seen to go. -/
theorem exec_drop {r : Req} {a : Answer r} (hg : Guard k v r) (hs : SightGuard k e r)
    (hf : Protected w k) (hdrop : ¬ Protected (exec k r a w).2 k) :
    ∃ c, e.cluster = some c ∧ c.deleting = true ∧
      ∀ y ∈ exposures k c.spec.targetNamespace, y ∈ e.gone := by
  obtain ⟨c₀, hs₀, hc₀⟩ := hf
  have hkept : ∀ {p c₁}, SightGuard k e (.patchObject p) → w.clusters.lookup k = some c₁ →
      clusterFinalizer ∉ (p.apply c₁).finalizers → ∃ c, e.cluster = some c ∧
        c.deleting = true ∧ ∀ y ∈ exposures k c.spec.targetNamespace, y ∈ e.gone := by
    rintro p c₁ ⟨_, c, s, hc, rfl, _, hgo⟩ hs₁ hnot
    obtain rfl := Option.some.inj (hs₁.symm.trans hs₀)
    rw [finalizers_apply] at hnot
    rcases hgo with hsame | ⟨-, hmem⟩ | ⟨hd, -, hgone⟩
    · rw [if_pos hsame.symm] at hnot
      exact absurd hc₀ hnot
    · split_ifs at hnot
      · exact absurd hc₀ hnot
      · exact absurd hmem hnot
    · exact ⟨c, hc, hd, hgone⟩
  have he := exec_effect (w := w) r a hg
  cases hc' : (exec k r a w).2.clusters.lookup k with
  | none =>
    obtain ⟨p, rfl, hlast⟩ := he.cluster_erased hs₀ hc'
    exact hkept hs hs₀ (by simp [hlast])
  | some c' =>
    have hnot : clusterFinalizer ∉ c'.finalizers := fun hmem => hdrop ⟨c', hc', hmem⟩
    obtain ⟨c₁, hs₁, hstatus | ⟨_, p, rfl, hp⟩⟩ := he.cluster_origin hc'
    · obtain rfl := Option.some.inj (hs₁.symm.trans hs₀)
      rw [hstatus] at hnot
      exact absurd hc₀ hnot
    · exact hkept hs hs₁ (hp ▸ hnot)

end Stored

section ExposuresHeld

variable {ext : Externals} {k j : ObjectKey} {t : String} {w : World} {e : Sight}

/-- No other cluster exposes its control plane under the name that `k` uses in the namespace `t`,
and users keep `t` as the target namespace of `k`. -/
def Separate (k : ObjectKey) (t : String) : ClusterEvent → Prop
  | .issue j (.createService n _) _ => j ≠ k → n ≠ ⟨t, k.lbName⟩
  | .issue j (.createLoadBalancer n _) _ => j ≠ k → n ≠ ⟨t, k.lbName⟩
  | .env (.createCluster j _ spec) => j = k → spec.targetNamespace = t
  | .env (.editCluster j spec) => j = k → spec.targetNamespace = t
  | _ => True

instance (k : ObjectKey) (t : String) : DecidablePred (Separate k t) := fun e => by
  unfold Separate
  casesm* ClusterEvent, Req, Env <;> infer_instance

/-- While anything is left of what a cluster has made, its finalizer holds it. -/
structure ExposuresHeld (k : ObjectKey) (t : String) (w : World) (e : Sight) : Prop where
  stored : ∀ c, w.clusters.lookup k = some c → c.spec.targetNamespace = t
  read : ∀ c, e.cluster = some c → c.spec.targetNamespace = t
  normal : ∀ c, e.Normal c → Protected w k
  gone : ∀ y ∈ exposures k t, y ∈ e.gone → w.exposes k y = false
  held : ∀ y ∈ exposures k t, w.exposes k y = true → Protected w k

/-- A request that makes something is one of a pass past the finalizer checks. -/
theorem SightGuard.normal {r : Req} (h : SightGuard k e r) (hr : r.exposure.isSome = true) :
    ∃ c, e.Normal c := by
  cases r with
  | createPool n spec => exact h.2 rfl
  | createService n ip => exact h.2 rfl
  | createLoadBalancer n spec => exact h.2 rfl
  | _ => cases hr

/-- Before the first pass there is nothing to hold. -/
theorem ExposuresHeld.start (hnames : ∀ c ∈ w.clusters.lookup k, c.spec.targetNamespace = t)
    (hclean : ∀ y ∈ exposures k t, w.exposes k y = false) : ExposuresHeld k t w .fresh where
  stored := hnames
  read _ hc := nomatch hc
  normal _ hn := nomatch hn.cluster
  gone _ _ hy := nomatch hy
  held y hy hx := absurd hx (by simp [hclean y hy])

theorem ExposuresHeld.fresh (h : ExposuresHeld k t w e) : ExposuresHeld k t w .fresh where
  stored := h.stored
  read _ hc := nomatch hc
  normal _ hn := nomatch hn.cluster
  gone _ _ hy := nomatch hy
  held := h.held

/-- The finalizer of a pass past the finalizer checks stays. -/
theorem ExposuresHeld.own {v : View} {r : Req} {a : Answer r} (h : ExposuresHeld k t w e)
    (hg : Guard k v r) (hs : SightGuard k e r) :
    ExposuresHeld k t (exec k r a w).2 (e.next r (exec k r a w).1) := by
  have he := exec_effect (w := w) r a hg
  have hkeep : (∀ c, e.cluster = some c → c.deleting = true →
      ¬ ∀ y ∈ exposures k t, y ∈ e.gone) → Protected w k → Protected (exec k r a w).2 k := by
    intro hnot hf
    by_contra hdrop
    obtain ⟨c, hc, hd, hgone⟩ := exec_drop hg hs hf hdrop
    exact hnot c hc hd (h.read c hc ▸ hgone)
  have hnormal : ∀ c, e.Normal c → Protected (exec k r a w).2 k := by
    intro c hn
    refine hkeep (fun c' hc' hd => ?_) (h.normal c hn)
    obtain rfl := Option.some.inj (hn.cluster.symm.trans hc')
    exact absurd hd (by simp [hn.alive])
  refine ⟨fun c' hc' => ?_, fun c hc => ?_, fun c hn => ?_, fun y hy => ?_, fun y hy hx => ?_⟩
  · obtain ⟨c, hc, hstatus | ⟨_, p, _, rfl⟩⟩ := he.cluster_origin hc'
    · rw [hstatus]
      exact h.stored c hc
    · exact h.stored c hc
  · rcases Sight.cluster_origin hc with hread | ⟨rfl, hstored⟩
    · exact h.read c hread
    · exact h.stored c hstored
  · rcases Sight.cluster_origin hn.cluster with hread | ⟨rfl, hstored⟩
    · exact hnormal c ⟨hread, hn.alive, hn.protected_⟩
    · exact ⟨c, hstored, hn.protected_⟩
  · exact exec_gone hg (h.gone y hy)
  · rcases exec_origin hg hx with hx | ⟨hr, _⟩
    · refine hkeep (fun c hc hd hall => ?_) (h.held y hy hx)
      exact absurd (h.gone y hy (hall y hy)) (by simp [hx])
    · obtain ⟨c, hn⟩ := SightGuard.normal hs (by simp [hr])
      exact hnormal c hn

/-- The requests of another cluster make nothing in its place. -/
theorem ExposuresHeld.other {v : View} {r : Req} {a : Answer r} (h : ExposuresHeld k t w e)
    (hj : j ≠ k) (hg : Guard j v r) (hok : Separate k t (.issue j r a)) :
    ExposuresHeld k t (exec j r a w).2 e := by
  have hsame := (exec_effect (w := w) r a hg).clusters_ne hj.symm
  have hprotected : Protected w k → Protected (exec j r a w).2 k := by
    unfold Protected
    rw [hsame]
    exact id
  have horigin : ∀ y ∈ exposures k t, (exec j r a w).2.exposes k y = true →
      w.exposes k y = true := by
    intro y hy hx
    refine (exec_origin hg hx).resolve_right ?_
    rintro ⟨hr, hpool⟩
    cases r with
    | createPool n spec => exact hpool.resolve_left hj n (Option.some.inj hr).symm
    | createService n ip =>
      obtain rfl := Option.some.inj hr
      exact hok hj (by simpa [exposures] using hy)
    | createLoadBalancer n spec =>
      obtain rfl := Option.some.inj hr
      exact hok hj (by simpa [exposures] using hy)
    | _ => cases hr
  refine ⟨fun c hc => h.stored c (hsame ▸ hc), h.read, fun c hn => hprotected (h.normal c hn),
    fun y hy hmem => ?_, fun y hy hx => hprotected (h.held y hy (horigin y hy hx))⟩
  by_contra hx
  exact absurd (horigin y hy (by simpa using hx)) (by simp [h.gone y hy hmem])

theorem ExposuresHeld.env {ev : Env} (h : ExposuresHeld k t w e) (hok : Separate k t (.env ev)) :
    ExposuresHeld k t (w.env ev) e := by
  have he := env_effect w ev
  refine ⟨fun c' hc' => ?_, h.read, fun c hn => he.protected_ (h.normal c hn),
    fun y hy hmem => ?_, fun y hy hx => he.protected_ (h.held y hy (env_origin hx))⟩
  · rcases he.cluster_origin hc' with ⟨fs, rfl⟩ | ⟨c, hc, _, hspec | rfl⟩
    · exact hok rfl
    · rw [hspec]
      exact h.stored c hc
    · exact hok rfl
  · by_contra hx
    exact absurd (env_origin (by simpa using hx)) (by simp [h.gone y hy hmem])

theorem held_preserves (ext : Externals) (k : ObjectKey) (t : String) :
    (observed ext).Preserves (contract.both sightContract) (fun _ _ => Separate k t)
      fun w v => ExposuresHeld k t w (v k).2 where
  start w v j _ h :=
    update_rule (Q := fun (u : View × Sight) => ExposuresHeld k t w u.2) (fun _ => h.fresh)
      fun _ => h
  issue w v j r a hg hok h := by
    refine update_rule (Q := fun (u : View × Sight) => ExposuresHeld k t (exec j r a w).2 u.2) ?_ ?_
    · rintro rfl
      exact h.own hg.1 hg.2
    · exact fun hk => h.other hk.symm hg.1 hok
  env w v e hok h := h.env hok

/-- In every run in which a cluster keeps its target namespace and no other cluster takes its name
there, whatever is left of the load balancer, the Service and the pool that the controller has made
for the cluster is held by its finalizer. -/
theorem exposures_held (ext : Externals) (k : ObjectKey) (t : String) (s : ClusterState)
    (hs : Starts s) (hclean : ∀ y ∈ exposures k t, s.world.exposes k y = false)
    (hnames : ∀ c ∈ s.world.clusters.lookup k, c.spec.targetNamespace = t)
    (acts : List ClusterAction)
    (hok : (system ext).Admissible (fun _ _ => Separate k t) s acts)
    (y : Exposure) (hy : y ∈ exposures k t)
    (hx : ((system ext).run s acts).world.exposes k y = true) :
    Protected ((system ext).run s acts).world k := by
  obtain ⟨v, -, h, -⟩ := hs.reaches (held_preserves ext k t) (ExposuresHeld.start hnames hclean) hok
  exact h.held y hy hx

end ExposuresHeld

open Sample in
theorem exposures_held_sample :
    let acts := created keyX [clusterFinalizer] spec ++ pass keyX
    ((system ext).run empty acts).world.exposes keyX (.service ⟨"target", keyX.lbName⟩) = true ∧
      Protected ((system ext).run empty acts).world keyX := by
  have hx : ((system ext).run empty (created keyX [clusterFinalizer] spec ++
      pass keyX)).world.exposes keyX (.service ⟨"target", keyX.lbName⟩) = true := by decide +kernel
  exact ⟨hx, exposures_held ext keyX "target" empty starts_empty (fun y _ => by cases y <;> rfl)
    nofun _ (by decide +kernel) _ (by simp [exposures]) hx⟩

end Caphv.Cluster
