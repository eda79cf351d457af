import Caphv.PoolAccounting
import Caphv.PoolOwnership

namespace Caphv.Cluster

/-- The id under which the pools hold the address of the load balancer of cluster `k`. -/
def lbID (k : ObjectKey) (c : HarvesterCluster) : String :=
  c.spec.targetNamespace ++ "/" ++ k.lbName

def Holds (p : IPPool) (id : String) : Prop := Store.getByID p.status id ≠ []

instance (p : IPPool) (id : String) : Decidable (Holds p id) :=
  inferInstanceAs (Decidable (_ ≠ _))

theorem holds_iff (p : IPPool) (id : String) : Holds p id ↔ ∃ x, p.status.holder x = some id := by
  unfold Holds Store.getByID
  cases hm : p.status.allocated with
  | none => simp [IPPoolStatus.holder, hm, Table.ofNil]
  | some m =>
    simp only [ne_eq, List.map_eq_nil_iff, List.filter_eq_nil_iff, decide_eq_true_eq, not_forall,
      not_not]
    constructor
    · rintro ⟨⟨x, v⟩, hmem, rfl⟩
      exact ⟨x, (mem_allocated_iff p.status x v hm).mp hmem⟩
    · rintro ⟨x, hx⟩
      exact ⟨⟨x, id⟩, (mem_allocated_iff p.status x id hm).mpr hx, rfl⟩

theorem holds_stored {p : IPPool} {id : String} : Holds p.stored id ↔ Holds p id := by
  simp only [holds_iff, IPPool.holder_stored]

def Held (w : World) (id : String) : Prop :=
  ∃ n ∈ w.pools.keys, ∃ p ∈ w.pools.lookup n, Holds p.pool id

instance (w : World) (id : String) : Decidable (Held w id) :=
  inferInstanceAs (Decidable (∃ n ∈ w.pools.keys, _))

theorem held_of_lookup {w : World} {n id : String} {p : StoredPool}
    (hp : w.pools.lookup n = some p) (h : Holds p.pool id) : Held w id := by
  have hn : n ∈ w.pools := AList.lookup_isSome.mp (by rw [hp]; rfl)
  exact ⟨n, AList.mem_keys.mp hn, p, hp, h⟩

theorem Held.exists_lookup {w : World} {id : String} (h : Held w id) :
    ∃ n p, w.pools.lookup n = some p ∧ Holds p.pool id := by
  obtain ⟨n, -, p, hp, hid⟩ := h
  exact ⟨n, p, hp, hid⟩

/-- Harvester removes the entries of one id, and no others. -/
theorem holds_releaseByID (p : StoredPool) (id id' : String) :
    Holds (p.releaseByID id).pool id' ↔ id' ≠ id ∧ Holds p.pool id' := by
  unfold StoredPool.releaseByID
  split_ifs with hnone
  · refine ⟨fun h => ⟨?_, h⟩, And.right⟩
    rintro rfl
    exact h hnone
  · rw [holds_stored]
    simp only [holds_iff, holder_releaseByID]
    constructor
    · rintro ⟨x, hx⟩
      split_ifs at hx with hid
      refine ⟨fun heq => ?_, x, hx⟩
      rw [heq] at hx
      exact hid hx
    · rintro ⟨hne, x, hx⟩
      refine ⟨x, ?_⟩
      rw [if_neg, hx]
      rw [hx]
      exact fun heq => hne (Option.some.inj heq)

theorem not_holds_new (spec : PoolSpec) (id : String) : ¬ Holds spec.new id := fun h => h rfl

section Returned

variable {k j : ObjectKey} {w w' : World} {v : ObjectKey → View} {u u' : View}

/-- No pool has an entry of the load balancer once a deletion has found it gone. -/
structure Returned (k : ObjectKey) (w : World) (u : View) : Prop where
  deleting : u.lbRemoved = true → ∃ c, u.Deleting c
  free : ∀ c, u.Deleting c → u.lbRemoved = true → ¬ Held w (lbID k c)

/-- The write of a pool brings no entry of the load balancer back while its cluster is being
deleted. -/
def BringsNone (k : ObjectKey) (v : ObjectKey → View) (old : Option IPPool) (new : IPPool) : Prop :=
  ∀ c ∈ (v k).cluster, c.deleting = true → Holds new (lbID k c) → ∃ p ∈ old, Holds p (lbID k c)

instance (k : ObjectKey) (v : ObjectKey → View) (old : Option IPPool) (new : IPPool) :
    Decidable (BringsNone k v old new) := inferInstanceAs (Decidable (∀ c ∈ _, _ → _ → _))

/-- When the deletion of cluster `k` deletes the load balancer, it exists, or no pool has an entry
for it; and nobody else writes such an entry while the deletion is under way. -/
def LoadBalancerFirst (k : ObjectKey) (w : World) (v : ObjectKey → View) : ClusterEvent → Prop
  | .issue j (.deleteLoadBalancer n) _ =>
    j = k → Held w (n.ns ++ "/" ++ n.name) → (w.loadBalancers.lookup n).isSome
  | .issue j (.updatePool n p) _ => j ≠ k → ∀ old ∈ w.pools.lookup n,
      old.pool.resourceVersion = p.resourceVersion → BringsNone k v (some old.pool) p
  | .env (.createPool _ p) => BringsNone k v none p
  | .env (.putPool n p) => BringsNone k v ((w.pools.lookup n).map StoredPool.pool) p
  | _ => True

instance (k : ObjectKey) (w : World) (v : ObjectKey → View) :
    DecidablePred (LoadBalancerFirst k w v) := fun e => by
  unfold LoadBalancerFirst
  casesm* ClusterEvent, Req, Env <;> infer_instance

/-- An entry that is there after a request was there before it, or comes from an update. -/
theorem Effect.held {r : Req} {x : Resp r} (he : Effect j w u r x w' u') {id : String}
    (h : Held w' id) :
    Held w id ∨ ∃ n p old c, r = .updatePool n p ∧ u.Normal c ∧ w.pools.lookup n = some old ∧
      old.pool.resourceVersion = p.resourceVersion ∧ Holds p id := by
  obtain ⟨n, p', hp', hid⟩ := h.exists_lookup
  have hkept : w.pools.lookup n = some p' → Held w id := fun hp => held_of_lookup hp hid
  cases he with
  | elsewhere _ hpools _ => exact Or.inl (hkept (hpools ▸ hp'))
  | @createPool m spec x c _ _ _ _ =>
    rw [note_pools, lookup_setPool] at hp'
    split_ifs at hp'
    · cases hp'
      exact absurd hid (not_holds_new spec id)
    · exact Or.inl (hkept hp')
  | @updatePool m p x c old hphase hs hversion =>
    rw [lookup_setPool] at hp'
    split_ifs at hp'
    · cases hp'
      exact Or.inr ⟨m, p, old, c, rfl, hphase, hs, hversion, holds_stored.mp hid⟩
    · exact Or.inl (hkept hp')
  | @deletePool m x c _ _ _ =>
    rw [note_pools, Table.lookup_erase_eq] at hp'
    split_ifs at hp'
    exact Or.inl (hkept hp')
  | deleteLoadBalancer _ _ _ =>
    rw [Table.lookup_mapValues] at hp'
    obtain ⟨p, hp, rfl⟩ := Option.map_eq_some_iff.mp hp'
    exact Or.inl (held_of_lookup hp ((holds_releaseByID p _ id).mp hid).2)
  | _ => exact Or.inl (hkept hp')

/-- With the load balancer its entries go. -/
theorem not_held_released (w : World) (n : NamespacedName) (id : String) :
    ¬ Held { w with
      loadBalancers := w.loadBalancers.erase n
      pools := w.pools.mapValues (StoredPool.releaseByID id) } id := by
  rintro ⟨m, -, p', hp', hid⟩
  rw [Table.lookup_mapValues] at hp'
  obtain ⟨p, -, rfl⟩ := Option.map_eq_some_iff.mp hp'
  exact ((holds_releaseByID p id id).mp hid).1 rfl

namespace Returned

theorem fresh : Returned k w .fresh where
  deleting hr := nomatch hr
  free _ _ hr := nomatch hr

theorem frame (h : Returned k w u) (hheld : ∀ id, Held w' id → Held w id)
    (hu : u'.cluster = u.cluster) (hl : u'.lbRemoved = u.lbRemoved) : Returned k w' u' where
  deleting hr := by
    obtain ⟨c, hc⟩ := h.deleting (hl ▸ hr)
    exact ⟨c, hu.trans hc.cluster, hc.deleting⟩
  free c hd hr hw := h.free c ⟨hu ▸ hd.cluster, hd.deleting⟩ (hl ▸ hr) (hheld _ hw)

/-- A request of the cluster itself. -/
theorem effect (h : Returned k w u) {r : Req} {x : Resp r} (he : Effect k w u r x w' u')
    (hok : ∀ n, r = .deleteLoadBalancer n → Held w (n.ns ++ "/" ++ n.name) →
      (w.loadBalancers.lookup n).isSome) : Returned k w' u' := by
  have hheld : (∀ n p, r ≠ .updatePool n p) → ∀ id, Held w' id → Held w id := fun hr id hw =>
    (he.held hw).resolve_right fun ⟨n, p, _, _, heq, _⟩ => hr n p heq
  cases he with
  | elsewhere _ hpools _ =>
    exact h.frame (fun id hw => by unfold Held at hw ⊢; rwa [hpools] at hw) rfl rfl
  | read hs hfirst =>
    have hnot : u.lbRemoved = true → False := fun hr => by
      obtain ⟨c, hc⟩ := h.deleting hr
      exact nomatch hfirst.symm.trans hc.cluster
    exact ⟨fun hr => (hnot hr).elim, fun _ _ hr => (hnot hr).elim⟩
  | @createPool n spec x c _ _ _ _ => cases x <;> exact h.frame (hheld nofun) rfl rfl
  | updatePool hphase _ _ =>
    refine ⟨h.deleting, fun c hd => ?_⟩
    obtain rfl := Option.some.inj (hphase.cluster.symm.trans hd.cluster)
    exact absurd (hphase.alive.symm.trans hd.deleting) Bool.false_ne_true
  | @deletePool n x c _ _ _ =>
    unfold View.next at *
    dsimp only at *
    split_ifs <;> exact h.frame (hheld nofun) rfl rfl
  | @deleteLoadBalancer n x c lb hphase hname _ =>
    subst hname
    have hview : (u.next (.deleteLoadBalancer ⟨c.spec.targetNamespace, k.lbName⟩) x).cluster =
        u.cluster := by
      unfold View.next
      dsimp only
      split_ifs <;> rfl
    refine ⟨fun _ => ⟨c, hview.trans hphase.cluster, hphase.deleting⟩, fun c' hd _ => ?_⟩
    obtain rfl := Option.some.inj ((hview.trans hphase.cluster).symm.trans hd.cluster)
    exact not_held_released w _ (lbID k c)
  | @loadBalancerGone n c hphase hname habsent =>
    subst hname
    refine ⟨fun _ => ⟨c, hphase.cluster, hphase.deleting⟩, fun c' hd _ hw => ?_⟩
    obtain rfl := Option.some.inj (hphase.cluster.symm.trans hd.cluster)
    have hsome := hok _ rfl hw
    rw [habsent] at hsome
    cases hsome
  | _ => exact h.frame (hheld nofun) rfl rfl

/-- A request of another cluster. -/
theorem effect_ne (h : Returned k w (v k)) (hk : k ≠ j) {r : Req} {x : Resp r} {a : Answer r}
    (he : Effect j w u r x w' u') (hok : LoadBalancerFirst k w v (.issue j r a)) :
    Returned k w' (v k) := by
  refine ⟨h.deleting, fun c hd hr hw => h.free c hd hr ?_⟩
  rcases he.held hw with hw | ⟨n, p, old, c', rfl, _, hs, hversion, hid⟩
  · exact hw
  · obtain ⟨p₀, hp₀, hid₀⟩ := hok (Ne.symm hk) old hs hversion c hd.cluster hd.deleting hid
    obtain rfl := Option.some.inj hp₀
    exact held_of_lookup hs hid₀

theorem envEffect (h : Returned k w (v k)) {e : Env} (he : EnvEffect w e w')
    (hok : LoadBalancerFirst k w v (.env e)) : Returned k w' (v k) := by
  refine ⟨h.deleting, fun c hd hr hw => h.free c hd hr ?_⟩
  obtain ⟨n, p', hp', hid⟩ := hw.exists_lookup
  cases he with
  | elsewhere _ hpools _ =>
    rw [hpools] at hp'
    exact held_of_lookup hp' hid
  | @createPool m pool _ =>
    rw [lookup_setPool] at hp'
    split_ifs at hp'
    · cases hp'
      obtain ⟨p₀, hp₀, -⟩ := hok c hd.cluster hd.deleting hid
      cases hp₀
    · exact held_of_lookup hp' hid
  | @putPool m pool old hs =>
    rw [lookup_setPool] at hp'
    split_ifs at hp'
    · cases hp'
      obtain ⟨p₀, hp₀, hid₀⟩ := hok c hd.cluster hd.deleting hid
      rw [hs] at hp₀
      obtain rfl := Option.some.inj hp₀
      exact held_of_lookup hs hid₀
    · exact held_of_lookup hp' hid
  | erasePool =>
    rw [Table.lookup_erase_eq] at hp'
    split_ifs at hp'
    exact held_of_lookup hp' hid
  | _ => exact held_of_lookup hp' hid

end Returned

theorem returned_preserves (ext : Externals) (k : ObjectKey) :
    (system ext).Preserves contract (LoadBalancerFirst k) fun w v => Returned k w (v k) := by
  refine preserves_of_effects ?_ ?_ ?_
  · intro w v j _ h
    exact update_rule (Q := fun (u : View) => Returned k w u) (fun _ => .fresh) fun _ => h
  · intro w w' v v' j r a he hok h
    refine update_rule (Q := fun (u : View) => Returned k w' u) ?_ fun hk => h.effect_ne hk he hok
    rintro rfl
    refine h.effect he fun n hr => ?_
    subst hr
    exact hok rfl
  · intro w w' v e he hok h
    exact h.envEffect he hok

/-- In every run in which a deletion of cluster `k` reaches its load balancer before the pools hold
an address for one that does not exist, a step that takes the finalizer away leaves no entry of
the load balancer in any pool. -/
theorem lb_address_returned (ext : Externals) (k : ObjectKey) (s : ClusterState) (hs : Starts s)
    (acts : List ClusterAction) (hok : (system ext).Admissible (LoadBalancerFirst k) s acts)
    (ans : ∀ r, Answer r) (hf : Protected ((system ext).run s acts).world k)
    (hdrop : ¬ Protected ((system ext).step ((system ext).run s acts) (.exec k ans)).world k) :
    ∃ c, (((system ext).run s acts).view k).cluster = some c ∧
      ∀ n p x, ((system ext).step ((system ext).run s acts) (.exec k ans)).world.pools.lookup n =
        some p → p.pool.status.holder x ≠ some (lbID k c) := by
  have hstart : Returned k s.world (s.view k) := by
    rw [hs.unseen k]
    exact .fresh
  obtain ⟨h, hconf⟩ := (returned_preserves ext k).run (keeps_contract ext) hs.conforms hstart hok
  rcases step_effect hconf k ans with hsame | ⟨r, x, v', he⟩
  · rw [hsame] at hdrop
    exact absurd hf hdrop
  · obtain ⟨c, hphase, hlb, -⟩ := he.unprotected hf hdrop
    refine ⟨c, hphase.cluster, fun n p a hp ha => h.free c hphase hlb ?_⟩
    have hheld := held_of_lookup hp ((holds_iff _ _).mpr ⟨a, ha⟩)
    rcases he.held hheld with hw | ⟨_, _, _, c', _, hn, _⟩
    · exact hw
    · obtain rfl := Option.some.inj (hn.cluster.symm.trans hphase.cluster)
      exact absurd (hn.alive.symm.trans hphase.deleting) Bool.false_ne_true

end Returned

namespace Sample

def lbPool : IPPool :=
  ⟨1, "", [⟨"10.0.0.0/24", "10.0.0.1", "10.0.0.2", "10.0.0.9"⟩], ⟨8, "", none, none⟩⟩

def lbPoolSpec : HarvesterClusterSpec := { spec with
  loadBalancerConfig := ⟨.pool, "p", ⟨"", "", "", "", ""⟩, []⟩ }

def reserve : List ClusterAction :=
  .env (.createPool "p" lbPool) :: created keyX [clusterFinalizer] lbPoolSpec ++ pass keyX

/-- The first control-plane machine comes, the load balancer is created, and a deletion is about
to patch the cluster. -/
def reserveAndDelete : List ClusterAction :=
  reserve ++ .env (.putMachine keyX ⟨some "x", true⟩) :: pass keyX ++
    .env (.deleteCluster keyX) :: calls 8 noFault keyX

def deletePlaceholder : List ClusterAction :=
  reserve ++ .env (.deleteCluster keyX) :: calls 8 noFault keyX

end Sample

open Sample in
theorem lb_address_returned_sample :
    Held ((system ext).run empty reserve).world "target/ns-x-lb" ∧
    ∃ c, (((system ext).run empty reserveAndDelete).view keyX).cluster = some c ∧
      ∀ n p x, ((system ext).step ((system ext).run empty reserveAndDelete)
        (.exec keyX (answers noFault))).world.pools.lookup n = some p →
          p.pool.status.holder x ≠ some (lbID keyX c) :=
  ⟨by decide +kernel, lb_address_returned ext keyX empty starts_empty reserveAndDelete
    (by decide +kernel) (answers noFault) (by decide +kernel) (by decide +kernel)⟩

open Sample in
/-- The cluster is gone, and the pool still holds the address of a load balancer that never
existed. -/
theorem lb_address_kept :
    let t := (system ext).run empty deletePlaceholder
    let t' := (system ext).step t (.exec keyX (answers noFault))
    Protected t.world keyX ∧ t'.world.clusters.lookup keyX = none ∧
      (t'.world.pools.lookup "p").map (fun p => p.pool.status.holder "10.0.0.2") =
        some (some "target/ns-x-lb") := by
  decide +kernel

end Caphv.Cluster
