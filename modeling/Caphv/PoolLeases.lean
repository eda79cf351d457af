import Caphv.ClusterDrafts
import Caphv.Composition

namespace Caphv

open Net (IP)

/-- A step of the pools in which entries change hands with the ids of `P` only, and free
addresses are given only where `G` says so. -/
structure PoolStep (P : String → Prop) (G : String → String → Prop) (t t' : Table String IPPool) :
    Prop where
  advances : poolVersions.Advances t t'
  changes : ∀ n x, Changes P (poolHolder t n x) (poolHolder t' n x)
  given : ∀ n x, poolHolder t n x = none → poolHolder t' n x ≠ none → G n x

section Steps

variable {P : String → Prop} {G : String → String → Prop} {id n : String}
  {t t' : Table String IPPool} {p p' : IPPool}

theorem poolHolder_congr (h : ∀ n, t'.lookup n = t.lookup n) (n x : String) :
    poolHolder t' n x = poolHolder t n x := by
  rw [poolHolder, poolHolder, h]

theorem Changes.mono {P P' : String → Prop} {before after : Option String}
    (h : Changes P before after) (hP : ∀ id, P id → P' id) : Changes P' before after := by
  rcases h with hsame | ⟨hfree, id, hid, hgiven⟩ | ⟨⟨id, hid, hheld⟩, hfree⟩
  · exact Or.inl hsame
  · exact Or.inr (Or.inl ⟨hfree, id, hP id hid, hgiven⟩)
  · exact Or.inr (Or.inr ⟨⟨id, hP id hid, hheld⟩, hfree⟩)

theorem PoolStep.mono {P' : String → Prop} {G' : String → String → Prop} (h : PoolStep P G t t')
    (hP : ∀ id, P id → P' id) (hG : ∀ n x, poolHolder t n x = none → G n x → G' n x) :
    PoolStep P' G' t t' :=
  ⟨h.advances, fun n x => (h.changes n x).mono hP,
    fun n x hfree hne => hG n x hfree (h.given n x hfree hne)⟩

/-- The entries are as before. -/
theorem PoolStep.of_holder (h : poolVersions.Advances t t')
    (hholder : ∀ n x, poolHolder t' n x = poolHolder t n x) : PoolStep P G t t' where
  advances := h
  changes n x := Or.inl (hholder n x)
  given n x hnone hne := absurd ((hholder n x).trans hnone) hne

/-- Nothing has changed. -/
theorem PoolStep.same (h : ∀ n, t'.lookup n = t.lookup n) : PoolStep P G t t' :=
  .of_holder (.of_lookup_eq h) (poolHolder_congr h)

theorem poolHolder_of_lookup_insert (hlookup : ∀ m, t'.lookup m = if m = n then some p' else
    t.lookup m) (m x : String) :
    poolHolder t' m x = if m = n then p'.status.holder x else poolHolder t m x := by
  unfold poolHolder
  rw [hlookup]
  split_ifs <;> rfl

/-- One pool was created, without entries. -/
theorem PoolStep.create (n : String) (p' : IPPool) (habsent : t.lookup n = none)
    (hlookup : ∀ m, t'.lookup m = if m = n then some p' else t.lookup m)
    (hfree : ∀ x, p'.status.holder x = none) : PoolStep P G t t' := by
  refine .of_holder (.create habsent hlookup) fun m x => ?_
  rw [poolHolder_of_lookup_insert hlookup]
  split_ifs with hm
  · rw [hfree, hm, poolHolder_of_none habsent]
  · rfl

/-- One pool was updated with a choice for `id` that was made on its present entries. -/
theorem PoolStep.grant (hs : t.lookup n = some p)
    (hlookup : ∀ m, t'.lookup m = if m = n then some p' else t.lookup m)
    (hversion : p.resourceVersion < p'.resourceVersion) (hg : Granted id p.status p'.status)
    (hid : P id) (hG : ∀ ip : IP, p'.status.holder ip.string ≠ none → G n ip.string) :
    PoolStep P G t t' := by
  have hholder := poolHolder_of_lookup_insert hlookup
  refine ⟨.replace hs hlookup (.of_lt hversion), fun m x => ?_, fun m x hnone hne => ?_⟩
  · rw [hholder]
    split_ifs with hm
    · rw [hm, poolHolder_of_lookup hs]
      rcases hg x with hsame | ⟨hfree, hgiven, -⟩
      · exact Or.inl hsame
      · exact Or.inr (Or.inl ⟨hfree, id, hid, hgiven⟩)
    · exact Or.inl rfl
  · rw [hholder] at hne
    split_ifs at hne with hm
    · rw [hm, poolHolder_of_lookup hs] at hnone
      rcases hg x with hsame | ⟨-, -, ip, rfl⟩
      · exact absurd (hsame.trans hnone) hne
      · exact hm ▸ hG ip hne
    · exact absurd hnone hne

end Steps

namespace Cluster

def World.ipPools (w : World) : Table String IPPool := w.pools.mapWithKey fun _ p => p.pool

theorem World.lookup_ipPools (w : World) (n : String) :
    w.ipPools.lookup n = (w.pools.lookup n).map StoredPool.pool := Table.lookup_mapWithKey _ _ _

theorem World.lookup_ipPools_of_lookup {w : World} {n : String} {p : StoredPool}
    (h : w.pools.lookup n = some p) : w.ipPools.lookup n = some p.pool := by
  rw [w.lookup_ipPools, h]
  rfl

theorem World.lookup_ipPools_of_none {w : World} {n : String} (h : w.pools.lookup n = none) :
    w.ipPools.lookup n = none := by
  rw [w.lookup_ipPools, h]
  rfl

/-- The pools after one of them was put in place. -/
theorem lookup_ipPools_setPool (w : World) (n m : String) (p : StoredPool) :
    (w.setPool n p).ipPools.lookup m = if m = n then some p.pool else w.ipPools.lookup m := by
  rw [World.lookup_ipPools, lookup_setPool, World.lookup_ipPools]
  split_ifs <;> rfl

def PoolKept (w : World) : Req → Prop
  | .deletePool n => w.pools.lookup n = none
  | _ => True

instance (w : World) (r : Req) : Decidable (PoolKept w r) := by
  unfold PoolKept
  casesm Req <;> infer_instance

section PoolSteps

variable {a : Allocator} {k : ObjectKey} {w w' : World} {u u' : View} {e : Draft}

/-- Harvester takes the entries of one id back. -/
theorem poolStep_releaseByID {P : String → Prop} {G : String → String → Prop} (w : World)
    (lbs : Table NamespacedName LoadBalancer) {id : String} (hid : P id) :
    PoolStep P G w.ipPools ({ w with
      loadBalancers := lbs
      pools := w.pools.mapValues (StoredPool.releaseByID id) } : World).ipPools := by
  have hlookup : ∀ n, ({ w with
      loadBalancers := lbs
      pools := w.pools.mapValues (StoredPool.releaseByID id) } : World).ipPools.lookup n =
        ((w.pools.lookup n).map (StoredPool.releaseByID id)).map StoredPool.pool := by
    intro n
    rw [World.lookup_ipPools, Table.lookup_mapValues]
  have hholder : ∀ (p : StoredPool) x, (p.releaseByID id).pool.status.holder x =
      if p.pool.status.holder x = some id then none else p.pool.status.holder x := by
    intro p x
    unfold StoredPool.releaseByID
    by_cases hnone : Store.getByID p.pool.status id = []
    · rw [if_pos hnone, if_neg fun hx => (holds_iff p.pool id).mpr ⟨x, hx⟩ hnone]
    · rw [if_neg hnone]
      exact (IPPool.holder_stored _ x).trans (holder_releaseByID _ _ _)
  have hentry : ∀ n x, poolHolder ({ w with
      loadBalancers := lbs
      pools := w.pools.mapValues (StoredPool.releaseByID id) } : World).ipPools n x =
        if poolHolder w.ipPools n x = some id then none else poolHolder w.ipPools n x := by
    intro n x
    unfold poolHolder
    rw [hlookup, World.lookup_ipPools]
    cases w.pools.lookup n with
    | none => rfl
    | some p => exact hholder p x
  refine ⟨fun n p hp => ?_, fun n x => ?_, fun n x hnone hne => ?_⟩
  · rw [World.lookup_ipPools] at hp
    obtain ⟨stored, hs, rfl⟩ := Option.map_eq_some_iff.mp hp
    refine ⟨(stored.releaseByID id).pool, by rw [hlookup, hs]; rfl, ?_⟩
    unfold StoredPool.releaseByID
    split_ifs
    · exact .refl _
    · exact .of_lt (Nat.lt_succ_self _)
  · rw [hentry]
    split_ifs with hx
    · exact Or.inr (Or.inr ⟨⟨id, hid, hx⟩, rfl⟩)
    · exact Or.inl rfl
  · rw [hentry, hnone] at hne
    exact absurd rfl hne

/-- The request is an update of pool `n` that the server accepts, and `x` has a holder in it. -/
def Req.Writes (w : World) (r : Req) (n x : String) : Prop :=
  ∃ p' old, r = .updatePool n p' ∧ w.ipPools.lookup n = some old ∧
    old.resourceVersion = p'.resourceVersion ∧ p'.status.holder x ≠ none

/-- A request changes entries only of the load balancer of its own cluster: free addresses of the
pool that the pass has read are given to it, or its addresses are taken back. -/
theorem Effect.poolStep {r : Req} {x : Resp r} (he : Effect k w u r x w' u')
    (hg : DraftGuard a k e r) (hcluster : e.cluster = u.cluster)
    (hread : ∀ n p, e.pool = some (n, p) → poolVersions.Read w.ipPools n p)
    (hkept : PoolKept w r) :
    PoolStep (fun id => ∃ c, u.cluster = some c ∧ id = lbID k c)
      (fun n x => r.Writes w n x ∧ ∃ ip : IP, x = ip.string) w.ipPools w'.ipPools := by
  cases he with
  | elsewhere _ hpools _ =>
    exact .same fun n => by rw [World.lookup_ipPools, hpools, World.lookup_ipPools]
  | @createPool n spec x c _ _ _ habsent =>
    refine .create n spec.new (World.lookup_ipPools_of_none habsent) (fun m => ?_)
      fun _ => rfl
    rw [World.lookup_ipPools, note_pools, ← World.lookup_ipPools, lookup_ipPools_setPool]
  | @updatePool n p' x c old hphase hs hversion =>
    obtain ⟨c', p, ip, hc', hpool, hchoice⟩ := hg
    obtain ⟨hv, hgranted⟩ := granted_chooseIPFromPool hchoice
    have hs' := World.lookup_ipPools_of_lookup hs
    -- The update was accepted under the version that was read, so the choice was made on the
    -- entries that are there.
    have hsame : ∀ x, old.pool.status.holder x = p.status.holder x := fun x =>
      congrFun ((hread n p hpool).content_eq hs' (hversion.trans hv)) x
    refine .grant hs' (lookup_ipPools_setPool w n · _) ?_ ?_ ⟨c', hcluster ▸ hc', rfl⟩
      fun y hy => ⟨⟨p', old.pool, rfl, hs', hversion, p'.holder_stored _ ▸ hy⟩, y, rfl⟩
    · show old.pool.resourceVersion < p'.resourceVersion + 1
      omega
    · intro x
      rw [hsame x, p'.holder_stored]
      exact hgranted x
  | @deletePool n x c _ _ _ =>
    refine .same fun m => ?_
    rw [World.lookup_ipPools, note_pools, Table.erase_of_lookup_none hkept, World.lookup_ipPools]
  | @deleteLoadBalancer n x c lb hphase hname _ =>
    subst hname
    exact poolStep_releaseByID w _ ⟨c, hphase.cluster, rfl⟩
  | _ => exact .same fun _ => rfl

end PoolSteps

/-- Others create pools without entries, change neither the entries nor the order of the versions
of a pool, and delete none. -/
def PoolsLeft (w : World) : Env → Prop
  | .createPool _ pool => Table.ofNil pool.status.allocated = ∅
  | .putPool n pool => ∀ old ∈ w.pools.lookup n,
      old.pool.resourceVersion ≤ pool.resourceVersion ∧
        Table.ofNil pool.status.allocated = Table.ofNil old.pool.status.allocated
  | .erasePool n => w.pools.lookup n = none
  | _ => True

instance (w : World) : DecidablePred (PoolsLeft w) := fun e => by
  unfold PoolsLeft
  casesm Env <;> infer_instance

theorem EnvEffect.poolStep {P : String → Prop} {G : String → String → Prop} {w w' : World} {e : Env}
    (he : EnvEffect w e w') (hok : PoolsLeft w e) : PoolStep P G w.ipPools w'.ipPools := by
  cases he with
  | elsewhere _ hpools _ =>
    exact .same fun n => by rw [World.lookup_ipPools, hpools, World.lookup_ipPools]
  | @createPool n pool habsent =>
    refine .create n pool (World.lookup_ipPools_of_none habsent)
      (lookup_ipPools_setPool w n · _) fun x => ?_
    have hnone : Table.ofNil pool.status.allocated = ∅ := hok
    rw [IPPoolStatus.holder, hnone]
    rfl
  | @putPool n pool old hs =>
    obtain ⟨hversion, hentries⟩ := hok old hs
    have hholder : ∀ x, pool.status.holder x = old.pool.status.holder x := by
      intro x
      rw [IPPoolStatus.holder, hentries]
      rfl
    have hs' := World.lookup_ipPools_of_lookup hs
    have hlookup := fun m => lookup_ipPools_setPool w n m { old with pool := pool }
    refine .of_holder (.replace hs' hlookup ⟨hversion, fun _ => funext hholder⟩)
      fun m x => ?_
    rw [poolHolder_of_lookup_insert hlookup]
    split_ifs with hm
    · rw [hm, poolHolder_of_lookup hs', hholder]
    · rfl
  | @erasePool n =>
    refine .same fun m => ?_
    have habsent : w.pools.lookup n = none := hok
    rw [World.lookup_ipPools, Table.erase_of_lookup_none habsent, World.lookup_ipPools]
  | _ => exact .same fun _ => rfl

/-- Every pass has read what is stored of its pool or was stored before, and both records of the
cluster agree. -/
structure DraftsRead (t : Table String IPPool) (v : ObjectKey → View × Draft) : Prop where
  pool : ∀ k n p, (v k).2.pool = some (n, p) → poolVersions.Read t n p
  cluster : ∀ k, (v k).2.cluster = (v k).1.cluster

section DraftsRead

variable {a : Allocator} {k : ObjectKey} {w w' : World} {v : ObjectKey → View × Draft}
  {t t' : Table String IPPool}

theorem DraftsRead.advance (h : DraftsRead t v) (ht : poolVersions.Advances t t') :
    DraftsRead t' v := ⟨fun k n p hp => (h.pool k n p hp).advance ht, h.cluster⟩

theorem DraftsRead.fresh (h : DraftsRead t v) :
    DraftsRead t (Function.update v k (.fresh, .fresh)) := by
  refine ⟨?_, ?_⟩
  · refine forall_update (Q := fun _ (u : View × Draft) => ∀ n p, u.2.pool = some (n, p) →
      poolVersions.Read t n p) (fun n p hp => ?_) fun j _ => h.pool j
    cases hp
  · exact forall_update (Q := fun _ (u : View × Draft) => u.2.cluster = u.1.cluster) rfl
      fun j _ => h.cluster j

/-- The pool of a draft is the one from before, or is the one that is stored now. -/
theorem draft_pool_origin {e : Draft} {r : Req} {b : Answer r} {n : String} {p : IPPool}
    (h : (e.next r (exec k r b w).1).pool = some (n, p)) :
    e.pool = some (n, p) ∨ (exec k r b w).2.ipPools.lookup n = some p := by
  cases r with
  | getCluster =>
    generalize (exec k .getCluster b w).1 = x at h
    cases x <;> exact Or.inl h
  | getPool m =>
    have hreply : (exec k (.getPool m) b w).1 = Fault.reply b (w.getPool m) := rfl
    have hworld : (exec k (.getPool m) b w).2 = w := rfl
    rw [hworld]
    rw [hreply] at h
    cases hx : Fault.reply b (w.getPool m) with
    | error err =>
      rw [hx] at h
      exact Or.inl h
    | ok q =>
      rw [hx] at h
      cases h
      have hget := Fault.reply_eq_ok hx
      unfold World.getPool at hget
      split_ifs at hget
      exact Or.inr ((w.lookup_ipPools n).trans (found_eq_ok hget))
  | createPool m spec =>
    have hstored : ∀ q, (Fault.write b w (w.createPool k m spec)).1 = .ok q →
        (Fault.write b w (w.createPool k m spec)).2.ipPools.lookup m = some q := by
      intro q hq
      have hout := Fault.write_eq_ok hq
      generalize (Fault.write b w (w.createPool k m spec)).2 = w' at hout ⊢
      unfold World.createPool at hout
      split_ifs at hout
      cases hout
      exact (lookup_ipPools_setPool w m m _).trans (if_pos rfl)
    have hworld : (exec k (.createPool m spec) b w).2.ipPools.lookup n =
        (Fault.write b w (w.createPool k m spec)).2.ipPools.lookup n := by
      have hpools : (exec k (.createPool m spec) b w).2.pools =
        (Fault.write b w (w.createPool k m spec)).2.pools := note_pools _ _ _ _
      rw [World.lookup_ipPools, World.lookup_ipPools, hpools]
    rw [hworld]
    have hreply : (exec k (.createPool m spec) b w).1 =
      (Fault.write b w (w.createPool k m spec)).1 := rfl
    rw [hreply] at h
    cases hx : (Fault.write b w (w.createPool k m spec)).1 with
    | error err =>
      rw [hx] at h
      exact Or.inl h
    | ok q =>
      rw [hx] at h
      cases h
      exact Or.inr (hstored _ hx)
  | updatePool m q => cases h
  | _ => exact Or.inl h

theorem DraftsRead.request (h : DraftsRead w.ipPools v) {r : Req} (b : Answer r)
    (ht : poolVersions.Advances w.ipPools (exec k r b w).2.ipPools) :
    DraftsRead (exec k r b w).2.ipPools (Function.update v k
      ((v k).1.next r (exec k r b w).1, (v k).2.next r (exec k r b w).1)) := by
  refine ⟨?_, ?_⟩
  · refine forall_update (Q := fun _ (u : View × Draft) => ∀ n p, u.2.pool = some (n, p) →
      poolVersions.Read (exec k r b w).2.ipPools n p) (fun n p hp => ?_)
      fun j _ n p hp => (h.pool j n p hp).advance ht
    rcases draft_pool_origin hp with hp | hs
    · exact (h.pool k n p hp).advance ht
    · exact .of_lookup hs
  · exact forall_update (Q := fun _ (u : View × Draft) => u.2.cluster = u.1.cluster)
      ((Draft.cluster_next _ r _).trans (View.readCluster_eq (h.cluster k) r _))
      fun j _ => h.cluster j

/-- No pool that is there is deleted, and nobody but the controllers touches the entries. -/
def PoolsQuiet (w : World) : ClusterEvent → Prop
  | .issue _ r _ => PoolKept w r
  | .env e => PoolsLeft w e

instance (w : World) : DecidablePred (PoolsQuiet w) := fun e => by
  unfold PoolsQuiet
  casesm ClusterEvent <;> infer_instance

def ClusterEvent.lbIDs (v : ObjectKey → View × Draft) : ClusterEvent → String → Prop
  | .issue k _ _, id => ∃ c, (v k).1.cluster = some c ∧ id = lbID k c
  | .env _, _ => False

/-- The free addresses that an event gives away. -/
def ClusterEvent.Gives (w : World) : ClusterEvent → String → String → Prop
  | .issue _ r _, n, x => r.Writes w n x ∧ ∃ ip : IP, x = ip.string
  | .env _, _, _ => False

/-- What an allowed event of the cluster controller does to the pools. -/
theorem moves_poolStep {ext : Externals} {ev : ClusterEvent} (h : DraftsRead w.ipPools v)
    (hm : (drafting ext).Moves (contract.both (draftContract ext.allocator)) w v ev w')
    (hok : PoolsQuiet w ev) : PoolStep (ev.lbIDs v) (ev.Gives w) w.ipPools w'.ipPools := by
  cases hm with
  | @issue k r b hg =>
    exact (exec_effect (w := w) r b hg.1).poolStep hg.2 (h.cluster k) (h.pool k) hok
  | env => exact (env_effect w _).poolStep hok

theorem drafting_preserves (ext : Externals) :
    (drafting ext).Preserves (contract.both (draftContract ext.allocator))
      (fun w _ ev => PoolsQuiet w ev) fun w v => DraftsRead w.ipPools v where
  start _ _ _ _ h := h.fresh
  issue _ _ _ _ b hg hok h := h.request b (moves_poolStep h (.issue hg) hok).advances
  env _ _ _ hok h := h.advance (moves_poolStep h .env hok).advances

end DraftsRead

end Cluster

end Caphv
